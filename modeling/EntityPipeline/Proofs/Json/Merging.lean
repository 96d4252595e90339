-- Values merged in any grouping. A side that is null or empty gives way to the other one, two other
-- objects are laid over one another, and nothing else can be merged. So it does not matter which
-- neighbours in a row of values are merged first, and a key finds its value in the last value that
-- has it.
import EntityPipeline.Merge
import EntityPipeline.Proofs.Json.Values

namespace EntityPipeline

open Json

variable {base change first second third v : Json} {members layer : List (String × Json)}
  {layers rest : List Json} {key : String}

/-! ## Members laid over members -/

theorem insertMember_ne_nil (key : String) (value : Json) (members : List (String × Json)) :
    insertMember key value members ≠ [] := by
  cases members with
  | nil => exact List.cons_ne_nil _ _
  | cons first rest =>
    unfold insertMember
    split
    · exact List.cons_ne_nil _ _
    · split <;> exact List.cons_ne_nil _ _

theorem overlay_ne_nil (h : members ≠ []) (layer : List (String × Json)) :
    overlay members layer ≠ [] := by
  induction layer generalizing members with
  | nil => exact h
  | cons member rest ih => exact ih (insertMember_ne_nil member.1 member.2 members)

theorem sortMembers_ne_nil (h : members ≠ []) : sortMembers members ≠ [] := by
  obtain ⟨first, rest, rfl⟩ := List.exists_cons_of_ne_nil h
  exact overlay_ne_nil (insertMember_ne_nil first.1 first.2 []) rest

/-- Of three layers, either two neighbours may be laid over one another first. -/
theorem overlay_assoc {upper : List (String × Json)} (hmembers : Increasing members)
    (hlayer : Increasing layer) (hupper : Increasing upper) :
    overlay (overlay members layer) upper = overlay members (overlay layer upper) := by
  refine ((hmembers.overlay layer).overlay upper).ext (hmembers.overlay _) fun key => ?_
  rw [lookup_overlay hupper.nodup, lookup_overlay hlayer.nodup,
    lookup_overlay (hlayer.overlay upper).nodup, lookup_overlay hupper.nodup, Option.or_assoc]

/-! ## Null and objects -/

/-- The members that a change lays over others. -/
def layer? : Json → Option (List (String × Json))
  | .object members => some members
  | .null => some []
  | _ => none

theorem increasing_layer (hsorted : change.IsSorted) (hlayer : layer? change = some layer) :
    Increasing layer := by
  cases change with
  | object members =>
    obtain rfl := Option.some.inj hlayer
    exact (isSorted_object.1 hsorted).1
  | null =>
    obtain rfl := Option.some.inj hlayer
    exact List.Pairwise.nil
  | _ => cases hlayer

/-- Of two objects, the second one's members are laid over those of the first. -/
theorem merge_objects {base : List (String × Json)} (hlayer : Increasing layer) :
    merge (.object base) (.object layer) = .ok (.object (overlay base layer)) := by
  cases base with
  | nil =>
    have hself : overlay [] layer = layer := sortMembers_eq_self hlayer
    rw [hself]
    rfl
  | cons first rest => cases layer <;> rfl

/-- Values that are null or objects can be merged, and are so in their members. -/
theorem merge_layers {first second : Json} {upper : List (String × Json)}
    (hsorted : second.IsSorted) (hfirst : layer? first = some layer)
    (hsecond : layer? second = some upper) :
    ∃ merged, merge first second = .ok merged ∧ layer? merged = some (overlay layer upper) := by
  have hupper : overlay [] upper = upper := sortMembers_eq_self (increasing_layer hsorted hsecond)
  cases first with
  | null =>
    obtain rfl := Option.some.inj hfirst
    exact ⟨second, rfl, hupper.symm ▸ hsecond⟩
  | object members =>
    obtain rfl := Option.some.inj hfirst
    cases second with
    | null =>
      obtain rfl := Option.some.inj hsecond
      cases members with
      | nil => exact ⟨.null, rfl, rfl⟩
      | cons first rest => exact ⟨_, rfl, rfl⟩
    | object members =>
      obtain rfl := Option.some.inj hsecond
      exact ⟨_, merge_objects (isSorted_object.1 hsorted).1, rfl⟩
    | _ => cases hsecond
  | _ => cases hfirst

theorem merge_of_layer {base : List (String × Json)} (hbase : base ≠ [])
    (hlayer : layer? change = some layer) :
    merge (.object base) change = .ok (.object (overlay base layer)) := by
  obtain ⟨first, rest, rfl⟩ := List.exists_cons_of_ne_nil hbase
  cases change with
  | object members =>
    obtain rfl := Option.some.inj hlayer
    cases members <;> rfl
  | null =>
    obtain rfl := Option.some.inj hlayer
    rfl
  | _ => cases hlayer

/-- Nothing but members can be laid over members. -/
theorem merge_of_no_layer {base : List (String × Json)} (hbase : base ≠ [])
    (hlayer : layer? change = none) : ∃ e, merge (.object base) change = .error e := by
  obtain ⟨first, rest, rfl⟩ := List.exists_cons_of_ne_nil hbase
  cases change with
  | object members => cases hlayer
  | null => cases hlayer
  | _ => exact ⟨_, rfl⟩

/-! ## Two values -/

theorem isEmptyLayer_object : (object members).isEmptyLayer = true ↔ members = [] := by
  cases members <;> simp [isEmptyLayer]

theorem isEmptyLayer_iff : v.isEmptyLayer = true ↔ v = .null ∨ v = .object [] := by
  cases v with
  | object members => simp [isEmptyLayer_object]
  | _ => simp [isEmptyLayer]

/-- Null and the empty object change nothing from above. -/
theorem merge_isEmptyLayer (hfirst : first.isEmptyLayer = false)
    (hsecond : second.isEmptyLayer = true) : merge first second = .ok first := by
  simp [merge, hfirst, hsecond]

/-- Where neither side gives way, only objects can be merged. -/
theorem merge_eq_ok (hfirst : first.isEmptyLayer = false) (hsecond : second.isEmptyLayer = false) :
    merge first second = .ok v ↔ ∃ members layer, first = .object members ∧
      second = .object layer ∧ v = .object (overlay members layer) := by
  simp only [merge, hfirst, hsecond, Bool.false_eq_true, if_false]
  split
  · simp [eq_comm]
  · rename_i hother
    simp only [reduceCtorEq, false_iff]
    rintro ⟨members, layer, rfl, rfl, -⟩
    exact hother members layer rfl rfl

theorem isEmptyLayer_of_merge (hfirst : first.isEmptyLayer = false)
    (h : merge first second = .ok v) : v.isEmptyLayer = false := by
  cases hsecond : second.isEmptyLayer with
  | true =>
    rw [merge_isEmptyLayer hfirst hsecond] at h
    exact Except.ok.inj h ▸ hfirst
  | false =>
    obtain ⟨members, layer, rfl, rfl, rfl⟩ := (merge_eq_ok hfirst hsecond).1 h
    rw [← Bool.not_eq_true, isEmptyLayer_object] at hfirst ⊢
    exact overlay_ne_nil hfirst layer

theorem isSorted_merge (hfirst : first.IsSorted) (hsecond : second.IsSorted)
    (h : merge first second = .ok v) : v.IsSorted := by
  cases hempty : first.isEmptyLayer with
  | true =>
    rw [merge_of_isEmptyLayer hempty] at h
    exact Except.ok.inj h ▸ hsecond
  | false =>
    cases hempty' : second.isEmptyLayer with
    | true =>
      rw [merge_isEmptyLayer hempty hempty'] at h
      exact Except.ok.inj h ▸ hfirst
    | false =>
      obtain ⟨members, layer, rfl, rfl, rfl⟩ := (merge_eq_ok hempty hempty').1 h
      obtain ⟨hincreasing, hmembers⟩ := isSorted_object.1 hfirst
      obtain ⟨-, hlayer⟩ := isSorted_object.1 hsecond
      refine isSorted_object.2 ⟨hincreasing.overlay layer, fun member hin => ?_⟩
      exact (mem_of_mem_overlay hin).elim (hmembers member) (hlayer member)

theorem get?_of_isEmptyLayer (h : v.isEmptyLayer = true) (key : String) : v.get? key = none := by
  rcases isEmptyLayer_iff.1 h with rfl | rfl <;> rfl

/-- In what two values are merged to, a key finds what it finds in the second, or else in the
first. -/
theorem get?_merge (hsecond : second.IsSorted) (h : merge first second = .ok v) (key : String) :
    v.get? key = (second.get? key).or (first.get? key) := by
  cases hempty : first.isEmptyLayer with
  | true =>
    rw [merge_of_isEmptyLayer hempty] at h
    rw [get?_of_isEmptyLayer hempty, Option.or_none, Except.ok.inj h]
  | false =>
    cases hempty' : second.isEmptyLayer with
    | true =>
      rw [merge_isEmptyLayer hempty hempty'] at h
      rw [get?_of_isEmptyLayer hempty', Option.none_or, Except.ok.inj h]
    | false =>
      obtain ⟨members, layer, rfl, rfl, rfl⟩ := (merge_eq_ok hempty hempty').1 h
      exact lookup_overlay (isSorted_object.1 hsecond).1.nodup

/-! ## Three values -/

theorem toOption_bind {α β : Type} (x : Except Failure α) (f : α → Except Failure β) :
    (x >>= f).toOption = x.toOption.bind fun a => (f a).toOption := by
  cases x <;> rfl

theorem toOption_eq_some_iff {α : Type} {x : Except Failure α} {a : α} :
    x.toOption = some a ↔ x = .ok a := by
  cases x <;> simp [Except.toOption]

/-- Of three values, either two neighbours may be merged first. Where that fails, a message may
speak of other values. -/
theorem merge_assoc (hfirst : first.IsSorted) (hsecond : second.IsSorted)
    (hthird : third.IsSorted) :
    (merge first second >>= (merge · third)).toOption =
      (merge second third >>= merge first).toOption := by
  refine Option.ext fun v => ?_
  simp only [toOption_bind, Option.bind_eq_some_iff, toOption_eq_some_iff]
  cases hempty : first.isEmptyLayer with
  | true => simp [merge_of_isEmptyLayer hempty]
  | false =>
  cases hempty' : second.isEmptyLayer with
  | true => simp [merge_isEmptyLayer hempty hempty', merge_of_isEmptyLayer hempty']
  | false =>
  cases hempty'' : third.isEmptyLayer with
  | true =>
    rw [merge_isEmptyLayer hempty' hempty'']
    constructor
    · rintro ⟨w, hw, hv⟩
      rw [merge_isEmptyLayer (isEmptyLayer_of_merge hempty hw) hempty''] at hv
      exact ⟨second, rfl, hv ▸ hw⟩
    · rintro ⟨_, ⟨⟩, hv⟩
      exact ⟨v, hv, merge_isEmptyLayer (isEmptyLayer_of_merge hempty hv) hempty''⟩
  | false =>
    -- no side gives way, so either order merges just three objects
    constructor
    · rintro ⟨w, hw, hv⟩
      have hmerged := isEmptyLayer_of_merge hempty hw
      obtain ⟨members, layer, rfl, rfl, rfl⟩ := (merge_eq_ok hempty hempty').1 hw
      obtain ⟨_, upper, ⟨⟩, rfl, rfl⟩ := (merge_eq_ok hmerged hempty'').1 hv
      have hmembers := (isSorted_object.1 hfirst).1
      have hlayer := (isSorted_object.1 hsecond).1
      have hupper := (isSorted_object.1 hthird).1
      refine ⟨_, merge_objects hupper, ?_⟩
      rw [merge_objects (hlayer.overlay upper), overlay_assoc hmembers hlayer hupper]
    · rintro ⟨w, hw, hv⟩
      have hmerged := isEmptyLayer_of_merge hempty' hw
      obtain ⟨layer, upper, rfl, rfl, rfl⟩ := (merge_eq_ok hempty' hempty'').1 hw
      obtain ⟨members, _, rfl, ⟨⟩, rfl⟩ := (merge_eq_ok hempty hmerged).1 hv
      have hmembers := (isSorted_object.1 hfirst).1
      have hlayer := (isSorted_object.1 hsecond).1
      have hupper := (isSorted_object.1 hthird).1
      refine ⟨_, merge_objects hlayer, ?_⟩
      rw [merge_objects hupper, overlay_assoc hmembers hlayer hupper]

/-! ## Rows of values -/

/-- What a key finds in the last of some values that has it. -/
def lastUnder (key : String) (values : List Json) : Option Json :=
  values.reverse.findSome? (Json.get? key)

theorem lastUnder_cons (key : String) (v : Json) (rest : List Json) :
    lastUnder key (v :: rest) = (lastUnder key rest).or (v.get? key) := by
  simp [lastUnder, List.findSome?_append]

theorem mergeAll_cons (base first : Json) (rest : List Json) :
    mergeAll base (first :: rest) = merge base first >>= (mergeAll · rest) := by
  rw [mergeAll]
  cases merge base first <;> rfl

/-- Layers may be merged among themselves before they are laid over a base. -/
theorem mergeAll_cons_toOption (hbase : base.IsSorted) (hfirst : first.IsSorted)
    (hrest : ∀ v ∈ rest, v.IsSorted) :
    (mergeAll base (first :: rest)).toOption = (mergeAll first rest >>= merge base).toOption := by
  induction rest generalizing first with
  | nil =>
    rw [mergeAll_cons]
    show (merge base first >>= .ok).toOption = (merge base first).toOption
    cases merge base first <;> rfl
  | cons second rest ih =>
    obtain ⟨hsecond, hrest⟩ := List.forall_mem_cons.1 hrest
    have hsplit : mergeAll base (first :: second :: rest) =
        (merge base first >>= (merge · second)) >>= (mergeAll · rest) := by
      rw [mergeAll_cons, bind_assoc]
      exact congrArg _ (funext fun v => mergeAll_cons v second rest)
    calc (mergeAll base (first :: second :: rest)).toOption
        = (merge base first >>= (merge · second)).toOption.bind
            fun merged => (mergeAll merged rest).toOption := by rw [hsplit, toOption_bind]
      _ = (merge first second >>= merge base).toOption.bind
            fun merged => (mergeAll merged rest).toOption := by
          rw [merge_assoc hbase hfirst hsecond]
      _ = (merge first second).toOption.bind
            fun layer => (mergeAll base (layer :: rest)).toOption := by
          simp only [mergeAll_cons, toOption_bind, Option.bind_assoc]
      _ = (merge first second).toOption.bind
            fun layer => (mergeAll layer rest >>= merge base).toOption :=
          Option.bind_congr fun layer hlayer =>
            ih (isSorted_merge hfirst hsecond (toOption_eq_some_iff.1 hlayer)) hrest
      _ = (mergeAll first (second :: rest) >>= merge base).toOption := by
          rw [mergeAll_cons first, bind_assoc, toOption_bind]

/-- In what values are merged to, a key finds what it finds in the last one that has it. -/
theorem get?_mergeAll (hlayers : ∀ layer ∈ layers, layer.IsSorted)
    (h : mergeAll base layers = .ok v) (key : String) :
    v.get? key = lastUnder key (base :: layers) := by
  induction layers generalizing base with
  | nil =>
    obtain rfl := Except.ok.inj h
    simp [lastUnder]
  | cons layer rest ih =>
    obtain ⟨hlayer, hrest⟩ := List.forall_mem_cons.1 hlayers
    rw [← toOption_eq_some_iff, mergeAll_cons, toOption_bind, Option.bind_eq_some_iff] at h
    obtain ⟨merged, hmerged, h⟩ := h
    rw [toOption_eq_some_iff] at hmerged h
    rw [ih hrest h, lastUnder_cons, lastUnder_cons, lastUnder_cons, Option.or_assoc,
      get?_merge hlayer hmerged]

theorem exists_mergeAll_objects (hlayers : ∀ layer ∈ layers, layer.IsSorted)
    (h : ∀ layer ∈ layers, ∃ members, layer = .object members) (members : List (String × Json)) :
    ∃ merged, mergeAll (.object members) layers = .ok (.object merged) := by
  induction layers generalizing members with
  | nil => exact ⟨members, rfl⟩
  | cons layer rest ih =>
    obtain ⟨hlayer, hrest⟩ := List.forall_mem_cons.1 hlayers
    obtain ⟨⟨upper, rfl⟩, hobjects⟩ := List.forall_mem_cons.1 h
    rw [mergeAll_cons, merge_objects (isSorted_object.1 hlayer).1]
    exact ih hrest hobjects _

/-- Sorted values, whose objects have one member under a key, are merged in any grouping: where one
grouping fails so does every other, and where one succeeds all give the same value. Null and the
empty object change nothing but one another, of which the second one is left. Layers may be merged
with one another before they are laid over a base; a key finds its value in the last of all that
has it, and objects are merged to an object. -/
theorem merging_does_not_depend_on_grouping :
    (∀ first second third : Json, first.IsSorted → second.IsSorted → third.IsSorted →
      (merge first second >>= (merge · third)).toOption =
        (merge second third >>= merge first).toOption) ∧
    (∀ empty v : Json, empty = .null ∨ empty = .object [] →
      merge empty v = .ok v ∧ (v ≠ .null → v ≠ .object [] → merge v empty = .ok v)) ∧
    ∀ (base first : Json) (rest : List Json), (∀ v ∈ base :: first :: rest, v.IsSorted) →
      (mergeAll base (first :: rest)).toOption = (mergeAll first rest >>= merge base).toOption ∧
      (∀ v, mergeAll base (first :: rest) = .ok v →
        ∀ key, v.get? key = lastUnder key (base :: first :: rest)) ∧
      ((∀ v ∈ base :: first :: rest, ∃ members, v = .object members) →
        ∃ members, mergeAll base (first :: rest) = .ok (.object members)) := by
  refine ⟨fun _ _ _ => merge_assoc, fun empty v hempty => ?_, fun base first rest hsorted => ?_⟩
  · rw [← isEmptyLayer_iff] at hempty
    refine ⟨merge_of_isEmptyLayer hempty v, fun hnull hobject => ?_⟩
    refine merge_isEmptyLayer ?_ hempty
    rw [← Bool.not_eq_true, isEmptyLayer_iff, not_or]
    exact ⟨hnull, hobject⟩
  · obtain ⟨hbase, hlayers⟩ := List.forall_mem_cons.1 hsorted
    obtain ⟨hfirst, hrest⟩ := List.forall_mem_cons.1 hlayers
    refine ⟨mergeAll_cons_toOption hbase hfirst hrest, fun v h => get?_mergeAll hlayers h,
      fun hobjects => ?_⟩
    obtain ⟨⟨members, rfl⟩, hothers⟩ := List.forall_mem_cons.1 hobjects
    exact exists_mergeAll_objects hlayers hothers members

/-- Settings of a shop. -/
def shopSettings : Json := .object [("currency", .string "EUR"), ("till", .string "left")]

/-- Settings of a branch, one of them null. -/
def branchSettings : Json := .object [("opens", .null), ("till", .string "right")]

/-- Settings of a stall. -/
def stallSettings : Json := .object [("currency", .object []), ("opens", .string "9")]

theorem settings_merge_in_any_grouping :
    (shopSettings.IsSorted ∧ branchSettings.IsSorted ∧ stallSettings.IsSorted ∧
      (merge shopSettings branchSettings >>= (merge · stallSettings)).toOption =
        (merge branchSettings stallSettings >>= merge shopSettings).toOption) ∧
    (merge .null shopSettings = .ok shopSettings ∧
      merge shopSettings .null = .ok shopSettings) ∧
    ∃ members, mergeAll shopSettings [branchSettings, stallSettings] = .ok (.object members) ∧
      ∀ key, members.lookup key =
        lastUnder key [shopSettings, branchSettings, stallSettings] := by
  obtain ⟨hassoc, hempty, hrows⟩ := merging_does_not_depend_on_grouping
  have hshop : shopSettings.IsSorted := rfl
  have hbranch : branchSettings.IsSorted := rfl
  have hstall : stallSettings.IsSorted := rfl
  obtain ⟨hbefore, hafter⟩ := hempty .null shopSettings (Or.inl rfl)
  obtain ⟨-, hkeys, hobjects⟩ := hrows shopSettings branchSettings [stallSettings]
    (by simp [hshop, hbranch, hstall])
  obtain ⟨members, hmerged⟩ :=
    hobjects (by simp [shopSettings, branchSettings, stallSettings])
  exact ⟨⟨hshop, hbranch, hstall, hassoc _ _ _ hshop hbranch hstall⟩,
    ⟨hbefore, hafter nofun nofun⟩, members, hmerged, hkeys _ hmerged⟩

/-- Of null and the empty object neither leaves the other as it is on both sides. -/
theorem empty_values_replace_one_another :
    merge (.object []) .null = .ok .null ∧ merge .null (.object []) = .ok (.object []) ∧
    ¬ ∀ empty v : Json, empty = .null ∨ empty = .object [] →
      merge empty v = .ok v ∧ merge v empty = .ok v :=
  ⟨rfl, rfl, fun h => nomatch (h .null (.object []) (Or.inl rfl)).2⟩

end EntityPipeline
