-- Contexts that hold definitions and nothing that a run makes of them. Such a context is told by
-- its definitions, each under its own name, whatever they are put there by and in whatever order.
import EntityPipeline.Proofs.Json.Members
import EntityPipeline.Proofs.Preparation.Loading

namespace EntityPipeline

variable {context : Context} {definition : EntityDefinition} {name key : String}

/-! ## Putting definitions under names -/

/-- The definition under a name. -/
def Context.definition? (context : Context) (name : String) : Option EntityDefinition :=
  (context.sources.lookup name).map EntitySource.definition

theorem lookup_putUnder {α : Type} (value : α) (l : List (String × α)) (other : String) :
    (putUnder key value l).lookup other = if other = key then some value else l.lookup other := by
  induction l with
  | nil =>
    rw [putUnder, List.lookup_cons]
    by_cases h : other = key
    · simp [h]
    · rw [if_neg h, beq_eq_false_iff_ne.2 h]
  | cons entry rest ih =>
    obtain ⟨k, v⟩ := entry
    unfold putUnder
    split
    · rename_i heq
      obtain rfl := beq_iff_eq.1 heq
      rw [List.lookup_cons, List.lookup_cons]
      by_cases h : other = k
      · simp [h]
      · rw [if_neg h, beq_eq_false_iff_ne.2 h]
    · rename_i hne
      rw [List.lookup_cons, List.lookup_cons, ih]
      by_cases h : other = k
      · subst h
        have hkey : other ≠ key := by simpa using hne
        simp [hkey]
      · rw [beq_eq_false_iff_ne.2 h]

theorem definition?_addDefinition (context : Context) (definition : EntityDefinition)
    (name : String) : (context.addDefinition definition).definition? name =
      if name = definition.name then some definition else context.definition? name := by
  unfold Context.definition? Context.addDefinition
  rw [lookup_putUnder]
  split <;> rfl

theorem mem_putUnder {α : Type} {value : α} {l : List (String × α)} {entry : String × α}
    (h : entry ∈ putUnder key value l) : entry = (key, value) ∨ entry ∈ l := by
  induction l with
  | nil => exact Or.inl (List.mem_singleton.1 h)
  | cons first rest ih =>
    obtain ⟨k, v⟩ := first
    unfold putUnder at h
    split at h
    · rename_i heq
      obtain rfl := beq_iff_eq.1 heq
      rcases List.mem_cons.1 h with h | h
      · exact Or.inl h
      · exact Or.inr (List.mem_cons_of_mem _ h)
    · rcases List.mem_cons.1 h with rfl | h
      · exact Or.inr List.mem_cons_self
      · exact (ih h).imp_right (List.mem_cons_of_mem _)

theorem nodup_putUnder {α : Type} {value : α} {l : List (String × α)}
    (h : (l.map Prod.fst).Nodup) : ((putUnder key value l).map Prod.fst).Nodup := by
  induction l with
  | nil => exact List.nodup_singleton _
  | cons first rest ih =>
    obtain ⟨k, v⟩ := first
    obtain ⟨hnew, hrest⟩ := List.nodup_cons.1 h
    unfold putUnder
    split
    · exact h
    · rename_i hne
      refine List.nodup_cons.2 ⟨fun hin => ?_, ih hrest⟩
      obtain ⟨entry, hentry, hkey⟩ := List.mem_map.1 hin
      rcases mem_putUnder hentry with rfl | hold
      · exact hne (by simpa using hkey.symm)
      · exact hnew (List.mem_map.2 ⟨entry, hold, hkey⟩)

theorem keys_putUnder {α : Type} (value : α) (l : List (String × α)) :
    Json.keys (putUnder key value l) =
      if key ∈ Json.keys l then Json.keys l else Json.keys l ++ [key] := by
  induction l with
  | nil => rfl
  | cons first rest ih =>
    obtain ⟨k, v⟩ := first
    have hcons (v : α) (l : List (String × α)) : Json.keys ((k, v) :: l) = k :: Json.keys l := rfl
    unfold putUnder
    by_cases hkey : k = key
    · subst hkey
      rw [if_pos (beq_self_eq_true k), hcons, hcons, if_pos List.mem_cons_self]
    · rw [if_neg (by simpa using hkey), hcons, hcons, ih]
      by_cases hin : key ∈ Json.keys rest
      · rw [if_pos hin, if_pos (List.mem_cons_of_mem _ hin)]
      · rw [if_neg hin, if_neg (by simpa [Ne.symm hkey] using hin), List.cons_append]

/-- Putting the value there again changes nothing. -/
theorem putUnder_of_lookup {α : Type} {value : α} {l : List (String × α)}
    (h : l.lookup key = some value) : putUnder key value l = l := by
  induction l with
  | nil => cases h
  | cons first rest ih =>
    obtain ⟨k, v⟩ := first
    unfold putUnder
    by_cases hkey : key = k
    · subst hkey
      rw [List.lookup_cons_self, Option.some.injEq] at h
      rw [if_pos (beq_self_eq_true key), h]
    · rw [Json.lookup_cons_of_ne hkey] at h
      rw [if_neg (by simpa using Ne.symm hkey), ih h]

/-- Values under distinct keys are told by the keys in their order and by what these find. -/
theorem eq_of_keys_of_lookup {α : Type} {l l' : List (String × α)} (hnodup : (Json.keys l).Nodup)
    (hkeys : Json.keys l = Json.keys l') (h : ∀ key, l.lookup key = l'.lookup key) : l = l' := by
  have hnodup' : (Json.keys l').Nodup := hkeys ▸ hnodup
  have hlength : l.length = l'.length := by simpa [Json.keys] using congrArg List.length hkeys
  refine List.ext_getElem hlength fun i hi hi' => ?_
  have hkey : l[i].1 = l'[i].1 := by
    have hat : (Json.keys l)[i]? = (Json.keys l')[i]? := by rw [hkeys]
    simpa [Json.keys, hi, hi'] using hat
  have hfound : l.lookup l[i].1 = some l[i].2 := Json.lookup_eq_some hnodup (List.getElem_mem hi)
  have hfound' : l'.lookup l'[i].1 = some l'[i].2 :=
    Json.lookup_eq_some hnodup' (List.getElem_mem hi')
  rw [h, hkey, hfound', Option.some.injEq] at hfound
  exact Prod.ext hkey hfound.symm

/-! ## Contexts of definitions -/

namespace Context

/-- The definitions of a context. -/
def definitions (context : Context) : List EntityDefinition :=
  context.sources.map fun source => source.2.definition

/-- A context that holds definitions alone, each under its own name. -/
structure IsGiven (context : Context) : Prop where
  distinct : (context.sources.map Prod.fst).Nodup
  unresolved : ∀ source ∈ context.sources,
    source = (source.2.definition.name, ⟨source.2.definition, none⟩)
  unprepared : context.entities = {}
  unrecorded : context.outputs = []

theorem IsGiven.addDefinition (h : context.IsGiven) (definition : EntityDefinition) :
    (context.addDefinition definition).IsGiven := by
  refine ⟨nodup_putUnder h.distinct, fun source hin => ?_, h.unprepared, h.unrecorded⟩
  rcases mem_putUnder hin with rfl | hin
  · rfl
  · exact h.unresolved source hin

theorem IsGiven.withConfig (h : context.IsGiven) (config : ApplicationConfig) :
    IsGiven { context with config } :=
  ⟨h.distinct, h.unresolved, h.unprepared, h.unrecorded⟩

theorem isGiven_ofDefinitions (config : ApplicationConfig) (definitions : List EntityDefinition) :
    (ofDefinitions config definitions).IsGiven := by
  have hadd : ∀ (rest : List EntityDefinition) (context : Context), context.IsGiven →
      (rest.foldl Context.addDefinition context).IsGiven := by
    intro rest
    induction rest with
    | nil => exact fun _ h => h
    | cons definition rest ih => exact fun context h => ih _ (h.addDefinition definition)
  exact hadd definitions _ ⟨List.nodup_nil, List.forall_mem_nil _, rfl, rfl⟩

theorem IsGiven.names_eq (h : context.IsGiven) :
    context.definitions.map EntityDefinition.name = context.sources.map Prod.fst := by
  rw [definitions, List.map_map]
  exact List.map_congr_left fun source hin => (congrArg Prod.fst (h.unresolved source hin)).symm

theorem IsGiven.nodup (h : context.IsGiven) :
    (context.definitions.map EntityDefinition.name).Nodup :=
  h.names_eq ▸ h.distinct

theorem IsGiven.sources_eq (h : context.IsGiven) :
    context.definitions.map (fun definition => (definition.name, ⟨definition, none⟩)) =
      context.sources := by
  rw [definitions, List.map_map]
  conv_rhs => rw [← List.map_id context.sources]
  exact List.map_congr_left fun source hin => (h.unresolved source hin).symm

/-- A given context is that of its definitions. -/
theorem IsGiven.eq_ofDefinitions (h : context.IsGiven) :
    context = ofDefinitions context.config context.definitions := by
  rw [ofDefinitions_eq h.nodup, h.sources_eq]
  obtain ⟨-, -, hentities, houtputs⟩ := h
  cases context
  simp_all

/-- The definition under a name is the one that has the name. -/
theorem IsGiven.definition?_eq_some (h : context.IsGiven) :
    context.definition? name = some definition ↔
      definition ∈ context.definitions ∧ definition.name = name := by
  unfold definition? definitions
  constructor
  · intro hfound
    obtain ⟨source, hlookup, rfl⟩ := Option.map_eq_some_iff.1 hfound
    have hin := Json.mem_of_lookup hlookup
    exact ⟨List.mem_map.2 ⟨_, hin, rfl⟩, (congrArg Prod.fst (h.unresolved _ hin)).symm⟩
  · rintro ⟨hin, rfl⟩
    obtain ⟨source, hsource, rfl⟩ := List.mem_map.1 hin
    have hname : source.1 = source.2.definition.name :=
      congrArg Prod.fst (h.unresolved source hsource)
    rw [← hname, Json.lookup_eq_some h.distinct hsource]
    rfl

theorem definition?_foldl {definitions : List EntityDefinition} :
    (definitions.foldl addDefinition context).definition? name =
      (definitions.reverse.find? (·.name == name)).or (context.definition? name) := by
  induction definitions generalizing context with
  | nil => rfl
  | cons first rest ih =>
    rw [List.foldl_cons, ih, definition?_addDefinition, List.reverse_cons, List.find?_append]
    by_cases hname : name = first.name
    · simp [hname]
    · have hne : (first.name == name) = false := beq_eq_false_iff_ne.2 (Ne.symm hname)
      simp [hname, hne]

/-- Of definitions that share a name, the last one is kept. -/
theorem definition?_ofDefinitions (config : ApplicationConfig) (definitions : List EntityDefinition)
    (name : String) : (ofDefinitions config definitions).definition? name =
      definitions.reverse.find? (·.name == name) := by
  unfold ofDefinitions
  rw [definition?_foldl]
  exact Option.or_none

section Definitions

variable {config : ApplicationConfig} {definitions : List EntityDefinition}

theorem mem_of_definition?
    (h : (ofDefinitions config definitions).definition? name = some definition) :
    definition ∈ definitions ∧ definition.name = name := by
  rw [definition?_ofDefinitions] at h
  exact ⟨List.mem_reverse.1 (List.mem_of_find?_eq_some h), by simpa using List.find?_some h⟩

theorem definition?_eq_none : (ofDefinitions config definitions).definition? name = none ↔
    name ∉ definitions.map EntityDefinition.name := by
  rw [definition?_ofDefinitions]
  simp

theorem definition?_of_nodup (hn : (definitions.map EntityDefinition.name).Nodup)
    (hin : definition ∈ definitions) :
    (ofDefinitions config definitions).definition? definition.name = some definition := by
  have hsame : (ofDefinitions config definitions).definitions = definitions := by
    rw [ofDefinitions_eq hn, Context.definitions, List.map_map]
    exact List.map_id definitions
  exact (isGiven_ofDefinitions config definitions).definition?_eq_some.2 ⟨hsame.symm ▸ hin, rfl⟩

end Definitions

theorem config_ofDefinitions (config : ApplicationConfig) (definitions : List EntityDefinition) :
    (ofDefinitions config definitions).config = config := by
  have hkept : ∀ (rest : List EntityDefinition) (context : Context),
      (rest.foldl addDefinition context).config = context.config := by
    intro rest
    induction rest with
    | nil => exact fun _ => rfl
    | cons definition rest ih => exact fun context => ih (context.addDefinition definition)
  exact hkept definitions _

/-- Given contexts with the same definitions under all names differ at most in their order. -/
theorem IsGiven.perm_definitions {other : Context} (h : context.IsGiven) (h' : other.IsGiven)
    (hsame : ∀ name, context.definition? name = other.definition? name) :
    context.definitions.Perm other.definitions := by
  refine (List.perm_ext_iff_of_nodup h.nodup.of_map h'.nodup.of_map).2 fun definition => ?_
  have hiff : context.definition? definition.name = some definition ↔
      definition ∈ context.definitions ∧ definition.name = definition.name := h.definition?_eq_some
  rw [hsame, h'.definition?_eq_some] at hiff
  simpa using hiff.symm

end Context

/-! ## The managed user -/

/-- The definition that is supplied for the user, if only an empty one. -/
def suppliedUser (context : Context) : EntityDefinition :=
  (context.definition? userEntity).getD {}

/-- Without anything supplied, the user is made of what is built in and of nothing. -/
theorem definition_managedUser (context : Context) : (managedUser context).definition =
    mergeUser (builtInUser context.config) (suppliedUser context) := by
  unfold managedUser suppliedUser Context.definition?
  cases context.sources.lookup userEntity <;> rfl

end EntityPipeline
