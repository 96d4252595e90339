-- Options stacked over one another. Each member of a stack is taken from the first layer that sets
-- it, and as this is all that tells what a stack comes to, it does not matter which neighbours are
-- laid over one another first. The same goes for options that are resolved against a stack.
import EntityPipeline.Proofs.Json.Merging
import EntityPipeline.Proofs.Project.BareEntities

namespace EntityPipeline

/-! ## What is taken from layers -/

namespace EntityOptions

variable {options defaults other : EntityOptions} {layers : List EntityOptions}

/-- The further members stand in the order of their keys, one for each key. -/
def IsListed (options : EntityOptions) : Prop := Json.Increasing options.extra

/-- Options that have each member from the first layer that sets it. -/
structure TakesFirst (layers : List EntityOptions) (options : EntityOptions) : Prop where
  settings : ∀ setting ∈ settings, setting.declared options = layers.findSome? setting.declared
  extra : ∀ key, options.extra.lookup key = layers.findSome? (·.extra.lookup key)
  listed : options.IsListed

/-- Options are told by their members. -/
theorem eq_of_settings
    (h : ∀ setting ∈ settings, setting.declared options = setting.declared other)
    (hextra : options.extra = other.extra) : options = other := by
  simp only [EntityOptions.settings, List.forall_mem_cons, Setting.settled] at h
  cases options
  cases other
  simp_all

/-- The layers tell what is taken from them. -/
theorem TakesFirst.unique (h : TakesFirst layers options) (h' : TakesFirst layers other) :
    options = other := by
  apply eq_of_settings
  · intro setting hin
    rw [h.settings setting hin, h'.settings setting hin]
  · apply h.listed.ext h'.listed
    intro key
    rw [h.extra, h'.extra]

theorem declared_empty : ∀ setting ∈ settings, setting.declared {} = none := by
  simp [settings, Setting.settled]

/-- Where nothing is set, all is taken from below. -/
theorem empty_withDefaults (options : EntityOptions) :
    ({} : EntityOptions).withDefaults options = options := by
  apply eq_of_settings
  · intro setting hin
    rw [declared_withDefaults _ _ setting hin, declared_empty setting hin, Option.none_or]
  · rfl

theorem withDefaults_empty (h : options.IsListed) : options.withDefaults {} = options := by
  apply eq_of_settings
  · intro setting hin
    rw [declared_withDefaults _ _ setting hin, declared_empty setting hin, Option.or_none]
  · exact Json.sortMembers_eq_self h

theorem withDefaults_self (h : options.IsListed) : options.withDefaults options = options := by
  apply eq_of_settings
  · intro setting hin
    rw [declared_withDefaults _ _ setting hin, Option.or_self]
  · apply (h.overlay options.extra).ext h
    intro key
    rw [Json.lookup_overlay h.nodup, Option.or_self]

/-- Options that are resolved keep what they or their defaults set. -/
theorem resolved_of_declared : ∀ setting ∈ settings, ∀ resolved ∈ setting.resolved,
    ∀ value, setting.declared (options.withDefaults defaults) = some value →
      resolved (.resolve options defaults) = some value := by
  simp only [settings, List.forall_mem_cons, Setting.settled, Option.mem_def, Option.some.injEq,
    forall_eq', reduceCtorEq, false_implies, implies_true, true_and]
  simp +contextual [ResolvedOptions.resolve]

/-- What options come to when they are resolved is told by the members with a place of their own. -/
theorem resolve_congr {options' defaults' : EntityOptions}
    (h : ∀ setting ∈ settings, setting.declared (options.withDefaults defaults) =
      setting.declared (options'.withDefaults defaults')) :
    ResolvedOptions.resolve options defaults = .resolve options' defaults' := by
  simp only [settings, List.forall_mem_cons, Setting.settled] at h
  simp only [ResolvedOptions.resolve, h]

end EntityOptions

/-! ## Stacks -/

/-- Options in a stack, grouped in some way. -/
inductive OptionStack where
  | layer (options : EntityOptions)
  | onto (upper lower : OptionStack)

namespace OptionStack

/-- The layers of a stack, from the top to the bottom. -/
def layers : OptionStack → List EntityOptions
  | layer options => [options]
  | onto upper lower => upper.layers ++ lower.layers

/-- What a stack comes to when each group is laid over the one below it. -/
def collapse : OptionStack → EntityOptions
  | layer options => options
  | onto upper lower => upper.collapse.withDefaults lower.collapse

/-- All layers of a stack are listed. -/
def AreListed (stack : OptionStack) : Prop := ∀ options ∈ stack.layers, options.IsListed

variable {stack upper lower : OptionStack}

theorem areListed_onto :
    (onto upper lower).AreListed ↔ upper.AreListed ∧ lower.AreListed :=
  List.forall_mem_append

theorem declared_collapse (stack : OptionStack) : ∀ setting ∈ EntityOptions.settings,
    setting.declared stack.collapse = stack.layers.findSome? setting.declared := by
  intro setting hin
  induction stack with
  | layer options => simp [collapse, layers]
  | onto upper lower ihu ihl =>
    rw [collapse, layers, EntityOptions.declared_withDefaults _ _ setting hin, ihu, ihl,
      List.findSome?_append]

theorem listed_collapse (h : stack.AreListed) : stack.collapse.IsListed := by
  induction stack with
  | layer options => exact h options (List.mem_singleton_self options)
  | onto upper lower _ ihl => exact (ihl (areListed_onto.1 h).2).overlay _

/-- Further members are taken from the first layer that has their key. -/
theorem lookup_collapse (h : stack.AreListed) (key : String) :
    stack.collapse.extra.lookup key = stack.layers.findSome? (·.extra.lookup key) := by
  induction stack with
  | layer options => simp [collapse, layers]
  | onto upper lower ihu ihl =>
    obtain ⟨hupper, hlower⟩ := areListed_onto.1 h
    have hextra : (onto upper lower).collapse.extra =
        Json.overlay lower.collapse.extra upper.collapse.extra := rfl
    rw [hextra, Json.lookup_overlay (listed_collapse hupper).nodup, ihu hupper, ihl hlower,
      layers, List.findSome?_append]

theorem takesFirst_collapse (h : stack.AreListed) :
    EntityOptions.TakesFirst stack.layers stack.collapse :=
  ⟨declared_collapse stack, lookup_collapse h, listed_collapse h⟩

/-- Stacks of the same layers come to the same options, however they are grouped. -/
theorem collapse_eq_of_layers {other : OptionStack} (hlayers : other.layers = stack.layers)
    (h : stack.AreListed) : other.collapse = stack.collapse := by
  have hother : other.AreListed := by
    unfold AreListed
    rwa [hlayers]
  have htaken := takesFirst_collapse hother
  rw [hlayers] at htaken
  exact htaken.unique (takesFirst_collapse h)

/-- Options that are resolved against defaults, both in stacks, are told by the layers. -/
theorem resolve_eq_of_layers {upper' lower' : OptionStack}
    (h : upper.layers ++ lower.layers = upper'.layers ++ lower'.layers) :
    ResolvedOptions.resolve upper.collapse lower.collapse =
      .resolve upper'.collapse lower'.collapse := by
  apply EntityOptions.resolve_congr
  intro setting hin
  have hfirst := declared_collapse (onto upper lower) setting hin
  have hother := declared_collapse (onto upper' lower') setting hin
  rw [layers, h] at hfirst
  exact hfirst.trans hother.symm

end OptionStack

/-! ## One meaning -/

/-- Options laid over one another: the grouping does not matter, options that set nothing change
nothing, and options over themselves stay as they are. Each member is the first that is set. -/
structure EntityOptions.StackLaws (a b c : EntityOptions) : Prop where
  grouping : (a.withDefaults b).withDefaults c = a.withDefaults (b.withDefaults c)
  over_nothing : a.withDefaults {} = a
  under_nothing : ({} : EntityOptions).withDefaults a = a
  over_itself : a.withDefaults a = a
  takes_first : TakesFirst [a, b, c] (a.withDefaults (b.withDefaults c))

/-- What options come to when they are resolved against defaults, told by the layers of both. -/
structure OptionStack.ResolvesByLayers (upper lower : OptionStack) : Prop where
  grouping : ∀ upper' lower' : OptionStack,
    upper'.layers ++ lower'.layers = upper.layers ++ lower.layers →
      ResolvedOptions.resolve upper'.collapse lower'.collapse =
        .resolve upper.collapse lower.collapse
  takes_first : ∀ setting ∈ EntityOptions.settings, ∀ resolved ∈ setting.resolved, ∀ value,
    (upper.layers ++ lower.layers).findSome? setting.declared = some value →
      resolved (.resolve upper.collapse lower.collapse) = some value

theorem OptionStack.resolvesByLayers (upper lower : OptionStack) :
    upper.ResolvesByLayers lower := by
  refine ⟨fun upper' lower' h => resolve_eq_of_layers h, ?_⟩
  intro setting hin resolved hresolved value hvalue
  apply EntityOptions.resolved_of_declared setting hin resolved hresolved value
  exact (declared_collapse (onto upper lower) setting hin).trans hvalue

/-- Options of which all members are listed have one meaning in a stack, and so has a stack of any
number of layers. What is resolved against stacked defaults is told by the layers alone; the user
that a run manages is resolved as if the built-in options were defaults over those of the
application. -/
theorem stacked_options_have_one_meaning (a b c : EntityOptions) (ha : a.IsListed)
    (hb : b.IsListed) (hc : c.IsListed) :
    EntityOptions.StackLaws a b c ∧
    (∀ stack other : OptionStack, stack.AreListed → other.layers = stack.layers →
      other.collapse = stack.collapse) ∧
    (∀ upper lower : OptionStack, upper.ResolvesByLayers lower) ∧
    ∀ context : Context, (managedUser context).options =
      .resolve (suppliedUser context).options ((builtInUser context.config).options.withDefaults
        (ResolvedOptions.defaults context.config)) := by
  let right : OptionStack := .onto (.layer a) (.onto (.layer b) (.layer c))
  have hlisted : right.AreListed := by
    simp [right, OptionStack.AreListed, OptionStack.layers, ha, hb, hc]
  refine ⟨⟨?_, ?_, ?_, ?_, ?_⟩, ?_, OptionStack.resolvesByLayers, ?_⟩
  · let left : OptionStack := .onto (.onto (.layer a) (.layer b)) (.layer c)
    have hlayers : left.layers = right.layers := rfl
    exact OptionStack.collapse_eq_of_layers hlayers hlisted
  · exact EntityOptions.withDefaults_empty ha
  · exact EntityOptions.empty_withDefaults a
  · exact EntityOptions.withDefaults_self ha
  · exact OptionStack.takesFirst_collapse hlisted
  · exact fun stack other h hlayers => OptionStack.collapse_eq_of_layers hlayers h
  · intro context
    let supplied : OptionStack := .layer (suppliedUser context).options
    let builtIn : OptionStack := .layer (builtInUser context.config).options
    let defaults : OptionStack := .layer (ResolvedOptions.defaults context.config)
    have hmerged : (managedUser context).definition.options =
        (supplied.onto builtIn).collapse := by
      rw [definition_managedUser]
      rfl
    have hoptions : (managedUser context).options =
        .resolve (managedUser context).definition.options defaults.collapse := rfl
    rw [hoptions, hmerged]
    have hlayers : (supplied.onto builtIn).layers ++ defaults.layers =
        supplied.layers ++ (builtIn.onto defaults).layers := rfl
    exact OptionStack.resolve_eq_of_layers hlayers

/-- The options of a book, of all novels and of a library, each with members that are not known. -/
def bookOptions : EntityOptions where
  dto := some .mapstruct
  extra := [("shelf", .string "A")]

def novelOptions : EntityOptions where
  dto := some .no
  service := some .serviceClass
  extra := [("loan", .string "two weeks"), ("shelf", .string "B")]

def libraryOptions : EntityOptions where
  service := some .no
  readOnly := some true
  extra := [("loan", .null)]

theorem books_are_stacked_over_their_library :
    bookOptions.IsListed ∧ novelOptions.IsListed ∧ libraryOptions.IsListed ∧
    EntityOptions.StackLaws bookOptions novelOptions libraryOptions ∧
    (ResolvedOptions.resolve (bookOptions.withDefaults novelOptions) libraryOptions).dto =
      .mapstruct := by
  have hbook : bookOptions.IsListed := List.pairwise_singleton _ _
  have hnovel : novelOptions.IsListed := List.pairwise_pair.2 (by decide)
  have hlibrary : libraryOptions.IsListed := List.pairwise_singleton _ _
  have hlaws := stacked_options_have_one_meaning bookOptions novelOptions libraryOptions hbook
    hnovel hlibrary
  exact ⟨hbook, hnovel, hlibrary, hlaws.1, rfl⟩

example : ((bookOptions.withDefaults novelOptions).withDefaults libraryOptions).extra =
    [("loan", .string "two weeks"), ("shelf", .string "A")] := rfl

end EntityPipeline
