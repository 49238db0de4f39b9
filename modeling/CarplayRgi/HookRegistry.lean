import Mathlib.Algebra.Order.Group.Int
import Mathlib.Data.List.Induction
import Mathlib.Data.List.Nodup
import CarplayRgi.StableInsert

/-!
# The module registry of the hook framework

Modules are kept in a table sorted by priority.  To unregister a module only
marks its entry as inactive.  Whatever is called, the table stays the stable
sort of the modules that were put in and holds every name once.  But a module
whose entry is inactive is taken for a duplicate when it registers again: the
call succeeds and the module stays inactive.
-/

namespace CarplayRgi

inductive HookResult where
  | ok | errInit | errParam | errMemory | errIo | errNotFound | errBusy
  deriving DecidableEq

namespace HookRegistry

open StableInsert

structure ModuleDef where
  name : String
  priority : Int
  deriving DecidableEq

structure HookModule where
  definition : ModuleDef
  active : Bool
  deriving DecidableEq

def maxModules : Nat := 16

/-- The position of a new module: in front of the first one with a greater
priority, or behind all of them. -/
def insertIdx (modules : List HookModule) (new : ModuleDef) : Nat :=
  modules.findIdx fun entry => decide (new.priority < entry.definition.priority)

/-- `hook_framework_register_module`; no definition is a null pointer, or one
without a name. -/
def registerModule (modules : List HookModule) : Option ModuleDef → HookResult × List HookModule
  | none => (.errParam, modules)
  | some new =>
      if maxModules ≤ modules.length then (.errBusy, modules)
      else if modules.any fun entry => decide (entry.definition.name = new.name) then
        (.ok, modules)
      else
        (.ok, modules.take (insertIdx modules new) ++
          ⟨new, true⟩ :: modules.drop (insertIdx modules new))

/-- `hook_framework_unregister_module`. -/
def unregisterModule (modules : List HookModule) : Option String → HookResult × List HookModule
  | none => (.errParam, modules)
  | some name =>
      let found := modules.findIdx fun entry => decide (entry.definition.name = name)
      if found < modules.length then
        (.ok, modules.modify found fun entry => { entry with active := false })
      else (.errNotFound, modules)

inductive Call where
  | register (definition : Option ModuleDef)
  | unregister (name : Option String)

def perform (modules : List HookModule) : Call → HookResult × List HookModule
  | .register definition => registerModule modules definition
  | .unregister name => unregisterModule modules name

/-- The module that a call adds to the table. -/
def added (modules : List HookModule) (call : Call) : List ModuleDef :=
  match call with
  | .register (some new) =>
      if modules.length < (perform modules call).2.length then [new] else []
  | _ => []

/-- The table after a number of calls, and the modules in the order in which
they were added to it. -/
def performAll (calls : List Call) : List HookModule × List ModuleDef :=
  calls.foldl (fun state call => ((perform state.1 call).2, state.2 ++ added state.1 call)) ([], [])

def definitions (modules : List HookModule) : List ModuleDef :=
  modules.map HookModule.definition

theorem registerModule_new {modules : List HookModule} {new : ModuleDef}
    (room : modules.length < maxModules)
    (isNew : ∀ entry ∈ modules, entry.definition.name ≠ new.name) :
    registerModule modules (some new) =
      (.ok, insertBy (fun entry => entry.definition.priority) ⟨new, true⟩ modules) := by
  have notFound : (modules.any fun entry => decide (entry.definition.name = new.name)) = false := by
    simpa using isNew
  rw [registerModule, if_neg (Nat.not_le.mpr room), notFound, if_neg Bool.false_ne_true,
    insertBy_eq_take_drop]
  rfl

theorem registerModule_duplicate {modules : List HookModule} {new : ModuleDef}
    (room : modules.length < maxModules)
    (duplicate : ∃ entry ∈ modules, entry.definition.name = new.name) :
    registerModule modules (some new) = (.ok, modules) := by
  have found : (modules.any fun entry => decide (entry.definition.name = new.name)) = true := by
    simpa using duplicate
  rw [registerModule, if_neg (Nat.not_le.mpr room), found, if_pos rfl]

theorem registerModule_full {modules : List HookModule} (full : maxModules ≤ modules.length)
    (new : ModuleDef) :
    registerModule modules (some new) = (.errBusy, modules) := by
  rw [registerModule, if_pos full]

/-- A change that keeps the definition keeps the definitions of the table. -/
theorem definitions_modify {change : HookModule → HookModule}
    (same : ∀ entry, (change entry).definition = entry.definition) (modules : List HookModule)
    (position : Nat) : definitions (modules.modify position change) = definitions modules := by
  induction modules generalizing position with
  | nil => simp [definitions]
  | cons head tail ih =>
      cases position with
      | zero => simp [definitions, same]
      | succ position => simpa [definitions] using ih position

theorem definitions_unregister (modules : List HookModule) (name : Option String) :
    definitions (unregisterModule modules name).2 = definitions modules := by
  cases name with
  | none => rfl
  | some name =>
      simp only [unregisterModule]
      split_ifs
      · refine definitions_modify ?_ modules _
        exact fun _ => rfl
      · rfl

/-- A call leaves the definitions as they are, or it inserts a new one by its
priority. -/
theorem perform_cases (modules : List HookModule) (call : Call) :
    (added modules call = [] ∧ definitions (perform modules call).2 = definitions modules) ∨
      ∃ new, modules.length < maxModules ∧
        (∀ entry ∈ modules, entry.definition.name ≠ new.name) ∧
        added modules call = [new] ∧
        definitions (perform modules call).2 =
          insertBy ModuleDef.priority new (definitions modules) := by
  cases call with
  | unregister name => exact Or.inl ⟨rfl, definitions_unregister modules name⟩
  | register definition =>
      cases definition with
      | none => exact Or.inl ⟨rfl, rfl⟩
      | some new =>
          by_cases full : maxModules ≤ modules.length
          · have kept := registerModule_full full new
            exact Or.inl ⟨by simp [added, perform, kept], by rw [perform, kept]⟩
          · by_cases duplicate : ∃ entry ∈ modules, entry.definition.name = new.name
            · have kept := registerModule_duplicate (Nat.lt_of_not_le full) duplicate
              exact Or.inl ⟨by simp [added, perform, kept], by rw [perform, kept]⟩
            · have isNew : ∀ entry ∈ modules, entry.definition.name ≠ new.name := by
                simpa using duplicate
              have inserted := registerModule_new (Nat.lt_of_not_le full) isNew
              have longer := (perm_insertBy (fun entry : HookModule => entry.definition.priority)
                ⟨new, true⟩ modules).length_eq
              refine Or.inr ⟨new, Nat.lt_of_not_le full, isNew, ?_, ?_⟩
              · simp [added, perform, inserted, longer]
              · rw [perform, inserted]
                exact map_insertBy _ (fun _ => rfl) _ _

/-- The table is the stable sort by priority of the modules that were added to
it, each of a name of its own. -/
structure StablySorted (table added : List ModuleDef) : Prop where
  room : table.length ≤ maxModules
  sorted : SortedBy ModuleDef.priority table
  inOrder : ∀ priority, table.filter (fun entry => decide (entry.priority = priority)) =
    added.filter fun entry => decide (entry.priority = priority)
  distinct : (table.map ModuleDef.name).Nodup

theorem StablySorted.insertBy {table added : List ModuleDef} (stable : StablySorted table added)
    {new : ModuleDef} (room : table.length < maxModules)
    (isNew : ∀ entry ∈ table, entry.name ≠ new.name) :
    StablySorted (StableInsert.insertBy ModuleDef.priority new table) (added ++ [new]) where
  room := by
    rw [(perm_insertBy ModuleDef.priority new table).length_eq]
    exact room
  sorted := stable.sorted.insertBy new
  inOrder := by
    intro priority
    rw [stable.sorted.filter_insertBy, List.filter_append, List.filter_append,
      stable.inOrder priority]
  distinct := by
    rw [((perm_insertBy ModuleDef.priority new table).map ModuleDef.name).nodup_iff, List.map_cons,
      List.nodup_cons]
    refine ⟨fun member => ?_, stable.distinct⟩
    obtain ⟨entry, inTable, sameName⟩ := List.mem_map.mp member
    exact isNew entry inTable sameName

theorem StablySorted.perform {modules : List HookModule} {earlier : List ModuleDef}
    (stable : StablySorted (definitions modules) earlier) (call : Call) :
    StablySorted (definitions (perform modules call).2) (earlier ++ added modules call) := by
  cases perform_cases modules call with
  | inl kept =>
      rw [kept.1, kept.2, List.append_nil]
      exact stable
  | inr inserted =>
      obtain ⟨new, room, isNew, isAdded, table⟩ := inserted
      rw [isAdded, table]
      refine stable.insertBy (by rwa [definitions, List.length_map]) fun entry member => ?_
      obtain ⟨found, inModules, rfl⟩ := List.mem_map.mp member
      exact isNew found inModules

theorem stablySorted_performAll (calls : List Call) :
    StablySorted (definitions (performAll calls).1) (performAll calls).2 := by
  induction calls using List.reverseRecOn with
  | nil => exact ⟨Nat.zero_le _, List.Pairwise.nil, fun _ => rfl, List.nodup_nil⟩
  | append_singleton earlier call ih =>
      rw [performAll, List.foldl_append]
      exact ih.perform call

def ActiveIn (modules : List HookModule) (name : String) : Prop :=
  ∃ entry ∈ modules, entry.definition.name = name ∧ entry.active = true

/-- The table has room, and holds an inactive entry of this name. -/
def Dormant (modules : List HookModule) (name : String) : Prop :=
  modules.length < maxModules ∧
    ∃ entry ∈ modules, entry.definition.name = name ∧ entry.active = false

/-- Two entries of one name are one entry. -/
theorem eq_of_name_eq {modules : List HookModule}
    (distinct : ((definitions modules).map ModuleDef.name).Nodup) {first second : HookModule}
    (firstIn : first ∈ modules) (secondIn : second ∈ modules)
    (same : first.definition.name = second.definition.name) : first = second := by
  rw [definitions, List.map_map] at distinct
  exact List.inj_on_of_nodup_map distinct firstIn secondIn same

/-- A call that succeeds leaves the module active, unless its entry is dormant. -/
theorem registerModule_active_iff {modules : List HookModule} {new : ModuleDef}
    (distinct : ((definitions modules).map ModuleDef.name).Nodup) :
    ((registerModule modules (some new)).1 = .ok →
        ActiveIn (registerModule modules (some new)).2 new.name) ↔
      ¬ Dormant modules new.name := by
  by_cases full : maxModules ≤ modules.length
  · rw [registerModule_full full new]
    exact iff_of_true (fun busy => HookResult.noConfusion busy)
      fun dormant => absurd dormant.1 (Nat.not_lt.mpr full)
  by_cases duplicate : ∃ entry ∈ modules, entry.definition.name = new.name
  · rw [registerModule_duplicate (Nat.lt_of_not_le full) duplicate, forall_prop_of_true rfl]
    constructor
    · rintro ⟨active, activeIn, activeName, isActive⟩ ⟨-, idle, idleIn, idleName, isIdle⟩
      obtain rfl := eq_of_name_eq distinct activeIn idleIn (activeName.trans idleName.symm)
      exact Bool.noConfusion (isActive.symm.trans isIdle)
    · intro awake
      obtain ⟨entry, entryIn, sameName⟩ := duplicate
      refine ⟨entry, entryIn, sameName, ?_⟩
      by_contra idle
      exact awake ⟨Nat.lt_of_not_le full, entry, entryIn, sameName, by simpa using idle⟩
  · have isNew : ∀ entry ∈ modules, entry.definition.name ≠ new.name := by
      simpa using duplicate
    rw [registerModule_new (Nat.lt_of_not_le full) isNew]
    refine iff_of_true (fun _ => ⟨⟨new, true⟩, ?_, rfl, rfl⟩) ?_
    · exact (perm_insertBy _ _ modules).mem_iff.mpr List.mem_cons_self
    · rintro ⟨-, entry, entryIn, sameName, -⟩
      exact isNew entry entryIn sameName

/-- After every call of a sequence the table is stably sorted with distinct
names, and a module whose registration succeeded is active. -/
def KeepsRegistered (calls : List Call) : Prop :=
  ∀ earlier call later, calls = earlier ++ call :: later →
    StablySorted (definitions (performAll (earlier ++ [call])).1)
        (performAll (earlier ++ [call])).2 ∧
      ∀ new, call = .register (some new) → (perform (performAll earlier).1 call).1 = .ok →
        ActiveIn (performAll (earlier ++ [call])).1 new.name

/-- No call registers a module whose entry is dormant. -/
def NeverDormant (calls : List Call) : Prop :=
  ∀ earlier new later, calls = earlier ++ .register (some new) :: later →
    ¬ Dormant (performAll earlier).1 new.name

theorem performAll_concat (earlier : List Call) (call : Call) :
    (performAll (earlier ++ [call])).1 = (perform (performAll earlier).1 call).2 := by
  rw [performAll, List.foldl_append]
  rfl

theorem keepsRegistered_iff (calls : List Call) : KeepsRegistered calls ↔ NeverDormant calls := by
  constructor
  · intro keeps earlier new later split
    have holds := (keeps earlier _ later split).2 new rfl
    rw [performAll_concat] at holds
    exact (registerModule_active_iff (stablySorted_performAll earlier).distinct).mp holds
  · intro awake earlier call later split
    refine ⟨stablySorted_performAll _, ?_⟩
    rintro new rfl
    rw [performAll_concat]
    exact (registerModule_active_iff (stablySorted_performAll earlier).distinct).mpr
      (awake earlier new later split)

/-- A module is registered, unregistered and registered again. -/
def reregistration : List Call :=
  [.register (some ⟨"routeguidance", 50⟩), .unregister (some "routeguidance"),
    .register (some ⟨"routeguidance", 50⟩)]

theorem reregistered_stays_inactive : ¬ ∀ calls, KeepsRegistered calls := by
  intro keeps
  have active := (keeps reregistration
    [.register (some ⟨"routeguidance", 50⟩), .unregister (some "routeguidance")]
    (.register (some ⟨"routeguidance", 50⟩)) [] rfl).2 ⟨"routeguidance", 50⟩ rfl (by decide)
  obtain ⟨entry, entryIn, -, isActive⟩ := active
  have onlyIdle : (performAll reregistration).1 = [⟨⟨"routeguidance", 50⟩, false⟩] := by decide
  change entry ∈ (performAll reregistration).1 at entryIn
  rw [onlyIdle, List.mem_singleton] at entryIn
  subst entryIn
  exact Bool.noConfusion isActive

end HookRegistry

end CarplayRgi
