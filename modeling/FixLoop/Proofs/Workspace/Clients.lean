import FixLoop.Proofs.Workspace.Editing

/-!
Clients that share a workspace. Each operation runs under the lock of the workspace, so a run of
any number of clients is a list of atomic steps in the order in which they got hold of it. Every
snapshot that was ever current is the registered one after some of the edit sets that landed, in the
order in which they did, and its version counts them; so a version names one snapshot only, and
what lands was computed from what it replaces.
-/

namespace FixLoop

/-- A step of one of the clients `κ`. Edits may be computed in any way from the snapshot that a
client holds. -/
inductive ClientStep (κ : Type) where
  | register (unit : SourceUnit)
  | fetch (client : κ) (unitId : String)
  | submit (client : κ) (edits : List TextEdit)

/-- What the caller of a step is told. -/
inductive Reply where
  | registered
  | fetched (unit : SourceUnit)
  | landed
  | rejected
  | raised (fault : WorkspaceFault)
  /-- There is no snapshot to submit edits for. -/
  | nothingHeld
  deriving Repr, DecidableEq

/-- A workspace with its clients. The units as they were registered and the edit sets that landed,
the oldest first, are kept only to speak about. -/
structure Shared (κ : Type) where
  workspace : Workspace
  /-- The snapshot that a client fetched last. -/
  held : κ → Option SourceUnit
  registered : String → Option SourceUnit
  landed : List (String × List TextEdit)

/-- A unit after edit sets that were applied one after another. -/
def SourceUnit.replay (unit : SourceUnit) (sets : List (List TextEdit)) :
    Except EditFault SourceUnit :=
  sets.foldlM withEdits unit

namespace Shared

variable {κ : Type}

/-- A workspace before any client has fetched anything. -/
def start (workspace : Workspace) : Shared κ where
  workspace
  held := fun _ => none
  registered := workspace.snapshot?
  landed := []

/-- The edit sets of one unit that landed. -/
def editsOf (state : Shared κ) (id : String) : List (List TextEdit) :=
  (state.landed.filter (·.1 == id)).map (·.2)

variable [DecidableEq κ]

def step (state : Shared κ) : ClientStep κ → Reply × Shared κ
  | .register unit =>
    match state.workspace.add unit with
    | .error fault => (.raised fault, state)
    | .ok workspace =>
      (.registered, { state with
        workspace
        registered := fun id => if id = unit.id then some unit else state.registered id })
  | .fetch client unitId =>
    match state.workspace.snapshot unitId with
    | .error fault => (.raised fault, state)
    | .ok unit =>
      (.fetched unit, { state with
        held := fun other => if other = client then some unit else state.held other })
  | .submit client edits =>
    match state.held client with
    | none => (.nothingHeld, state)
    | some unit =>
      match state.workspace.tryEdit unit.id unit.version edits with
      | .error fault => (.raised fault, state)
      | .ok (false, workspace) => (.rejected, { state with workspace })
      | .ok (true, workspace) =>
        (.landed, { state with workspace, landed := state.landed ++ [(unit.id, edits)] })

/-- The state after steps in their order. -/
def run (state : Shared κ) (steps : List (ClientStep κ)) : Shared κ :=
  steps.foldl (fun state step => (state.step step).2) state

end Shared

namespace SourceUnit

theorem replay_append (unit : SourceUnit) (first second : List (List TextEdit)) :
    unit.replay (first ++ second) = (unit.replay first).bind (·.replay second) :=
  List.foldlM_append

theorem replay_snoc {unit middle next : SourceUnit} {sets : List (List TextEdit)}
    {edits : List TextEdit} (replayed : unit.replay sets = .ok middle)
    (edited : middle.withEdits edits = .ok next) : unit.replay (sets ++ [edits]) = .ok next := by
  rw [replay_append, replayed]
  simp [Except.bind, replay, edited, bind, pure, Except.pure]

theorem replay_cons_eq_ok {unit last : SourceUnit} {edits : List TextEdit}
    {sets : List (List TextEdit)} :
    unit.replay (edits :: sets) = .ok last ↔
      ∃ next, unit.withEdits edits = .ok next ∧ next.replay sets = .ok last := by
  cases edited : unit.withEdits edits <;> simp [replay, edited, bind, Except.bind]

/-- Every edit set counts once. -/
theorem version_replay {sets : List (List TextEdit)} {unit last : SourceUnit}
    (replayed : unit.replay sets = .ok last) : last.version = unit.version + sets.length := by
  induction sets generalizing unit with
  | nil =>
    cases replayed
    simp
  | cons edits rest ih =>
    obtain ⟨next, edited, after⟩ := replay_cons_eq_ok.mp replayed
    rw [ih after, version_withEdits edited, List.length_cons]
    omega

end SourceUnit

namespace Shared

variable {κ : Type} {state next : Shared κ} {unit : SourceUnit}

/-- Whether a snapshot is or was current: it comes from the registered one by the first few of the
edit sets that landed. -/
def IsPast (state : Shared κ) (unit : SourceUnit) : Prop :=
  ∃ base done rest, state.registered unit.id = some base ∧
    state.editsOf unit.id = done ++ rest ∧ base.replay done = .ok unit

/-- What holds between the workspace, the clients and the history at any time. -/
structure Consistent (state : Shared κ) : Prop where
  unregistered : ∀ id, state.registered id = none →
    state.workspace.snapshot? id = none ∧ state.editsOf id = []
  current : ∀ id base, state.registered id = some base →
    ∃ unit, state.workspace.snapshot? id = some unit ∧ base.replay (state.editsOf id) = .ok unit
  held : ∀ client unit, state.held client = some unit → state.IsPast unit

/-- Whether a state has all the history of another, and perhaps more. -/
def Extends (next state : Shared κ) : Prop :=
  ∀ id base, state.registered id = some base →
    next.registered id = some base ∧ ∃ more, next.editsOf id = state.editsOf id ++ more

theorem Extends.refl (state : Shared κ) : state.Extends state :=
  fun _ _ found => ⟨found, [], (List.append_nil _).symm⟩

theorem Extends.trans {last : Shared κ} (later : last.Extends next) (earlier : next.Extends state) :
    last.Extends state := by
  intro id base found
  obtain ⟨kept, more, grown⟩ := earlier id base found
  obtain ⟨keptLast, evenMore, grownLast⟩ := later id base kept
  exact ⟨keptLast, more ++ evenMore, by rw [grownLast, grown, List.append_assoc]⟩

theorem IsPast.extend (past : state.IsPast unit) (extended : next.Extends state) :
    next.IsPast unit := by
  obtain ⟨base, done, rest, found, edits, replayed⟩ := past
  obtain ⟨kept, more, grown⟩ := extended _ _ found
  exact ⟨base, done, rest ++ more, kept, by rw [grown, edits, List.append_assoc], replayed⟩

/-- A version is never used for two snapshots of one unit. -/
theorem IsPast.eq_of_version {first second : SourceUnit} (past : state.IsPast first)
    (other : state.IsPast second) (same : first.id = second.id)
    (version : first.version = second.version) : first = second := by
  obtain ⟨base, done, rest, found, edits, replayed⟩ := past
  obtain ⟨otherBase, otherDone, otherRest, otherFound, otherEdits, otherReplayed⟩ := other
  rw [← same] at otherFound otherEdits
  obtain rfl := Option.some.inj (found.symm.trans otherFound)
  have counted := SourceUnit.version_replay replayed
  have otherCounted := SourceUnit.version_replay otherReplayed
  have lengths : done.length = otherDone.length := by omega
  obtain ⟨rfl, -⟩ := List.append_inj (edits.symm.trans otherEdits) lengths
  exact Except.ok.inj (replayed.symm.trans otherReplayed)

theorem Consistent.isPast {id : String} (consistent : state.Consistent)
    (found : state.workspace.snapshot? id = some unit) : state.IsPast unit := by
  cases registered : state.registered id with
  | none =>
    rw [(consistent.unregistered id registered).1] at found
    cases found
  | some base =>
    obtain ⟨latest, present, replayed⟩ := consistent.current id base registered
    obtain rfl := Option.some.inj (found.symm.trans present)
    have own := Workspace.id_of_snapshot? found
    exact ⟨base, state.editsOf id, [], by rw [own]; exact registered, by simp [own], replayed⟩

theorem editsOf_landed (workspace : Workspace) (id other : String) (edits : List TextEdit) :
    editsOf { state with workspace, landed := state.landed ++ [(id, edits)] } other =
      if other = id then state.editsOf other ++ [edits] else state.editsOf other := by
  by_cases equal : other = id
  · simp [editsOf, equal]
  · simp [editsOf, equal, Ne.symm equal]

theorem start_consistent (workspace : Workspace) : (start workspace : Shared κ).Consistent where
  unregistered id missing := ⟨missing, rfl⟩
  current id base found := ⟨base, found, rfl⟩
  held client unit fetched := by cases fetched

/-- A unit that can be added has no history. -/
theorem Consistent.unregistered_of_add {workspace : Workspace} (consistent : state.Consistent)
    (added : state.workspace.add unit = .ok workspace) : state.registered unit.id = none := by
  cases found : state.registered unit.id with
  | none => rfl
  | some base =>
    obtain ⟨latest, present, -⟩ := consistent.current _ base found
    rw [Workspace.snapshot?_eq_none_of_add added] at present
    cases present

section Steps

variable [DecidableEq κ]

/-- How a step can go: what its caller is told, and the state then. -/
inductive Goes (state : Shared κ) : ClientStep κ → Reply → Shared κ → Prop where
  | raised {step : ClientStep κ} {fault : WorkspaceFault} : Goes state step (.raised fault) state
  | nothingHeld {client : κ} {edits : List TextEdit} :
    Goes state (.submit client edits) .nothingHeld state
  | registered {unit : SourceUnit} {workspace : Workspace}
      (added : state.workspace.add unit = .ok workspace) :
    Goes state (.register unit) .registered { state with
      workspace
      registered := fun id => if id = unit.id then some unit else state.registered id }
  | fetched {client : κ} {unitId : String} {unit : SourceUnit}
      (found : state.workspace.snapshot? unitId = some unit) :
    Goes state (.fetch client unitId) (.fetched unit) { state with
      held := fun other => if other = client then some unit else state.held other }
  | rejected {client : κ} {edits : List TextEdit} :
    Goes state (.submit client edits) .rejected state
  | landed {client : κ} {edits : List TextEdit} {unit : SourceUnit} {workspace : Workspace}
      (held : state.held client = some unit)
      (landed : state.workspace.tryEdit unit.id unit.version edits = .ok (true, workspace)) :
    Goes state (.submit client edits) .landed
      { state with workspace, landed := state.landed ++ [(unit.id, edits)] }

theorem goes_step (state : Shared κ) (step : ClientStep κ) :
    state.Goes step (state.step step).1 (state.step step).2 := by
  cases step with
  | register unit =>
    simp only [Shared.step]
    split
    · exact .raised
    · exact .registered ‹_›
  | fetch client unitId =>
    simp only [Shared.step]
    split
    · exact .raised
    · exact .fetched (Workspace.snapshot_eq_ok.mp ‹_›)
  | submit client edits =>
    simp only [Shared.step]
    split
    · exact .nothingHeld
    · rename_i unit held
      split
      · exact .raised
      · rename_i workspace rejected
        rw [Workspace.eq_of_tryEdit_rejected rejected]
        exact .rejected
      · exact .landed held ‹_›

variable {step : ClientStep κ} {reply : Reply} {workspace : Workspace}

/-- No step takes anything away from the history. -/
theorem Goes.grows (goes : state.Goes step reply next) (consistent : state.Consistent) :
    next.Extends state := by
  cases goes with
  | @registered unit workspace added =>
    intro id base found
    refine ⟨?_, [], (List.append_nil _).symm⟩
    have different : id ≠ unit.id := by
      rintro rfl
      rw [consistent.unregistered_of_add added] at found
      cases found
    exact (if_neg different).trans found
  | fetched => exact fun id base found => ⟨found, [], (List.append_nil _).symm⟩
  | @landed client edits unit workspace held landed =>
    intro id base found
    refine ⟨found, if id = unit.id then [edits] else [], ?_⟩
    rw [editsOf_landed]
    split <;> simp
  | _ => exact .refl state

namespace Consistent

/-- A unit that is added is as it was registered. -/
theorem register (consistent : state.Consistent)
    (added : state.workspace.add unit = .ok workspace) :
    Consistent { state with
      workspace
      registered := fun id => if id = unit.id then some unit else state.registered id } where
  unregistered id missing := by
    by_cases equal : id = unit.id
    · simp [equal] at missing
    · rw [Workspace.snapshot?_add added, if_neg equal]
      exact consistent.unregistered id (by simpa [equal] using missing)
  current id base found := by
    rw [Workspace.snapshot?_add added]
    by_cases equal : id = unit.id
    · subst equal
      obtain rfl : unit = base := by simpa using found
      have noEdits := (consistent.unregistered _ (consistent.unregistered_of_add added)).2
      refine ⟨unit, if_pos rfl, ?_⟩
      change unit.replay (state.editsOf unit.id) = .ok unit
      rw [noEdits]
      rfl
    · rw [if_neg equal]
      exact consistent.current id base (by simpa [equal] using found)
  held client fetched held :=
    (consistent.held client fetched held).extend ((Goes.registered added).grows consistent)

/-- A snapshot that is fetched is current. -/
theorem fetch {client : κ} {unitId : String} (consistent : state.Consistent)
    (found : state.workspace.snapshot? unitId = some unit) :
    Consistent { state with
      held := fun other => if other = client then some unit else state.held other } where
  unregistered := consistent.unregistered
  current := consistent.current
  held other fetched held := by
    by_cases equal : other = client
    · obtain rfl : unit = fetched := by simpa [equal] using held
      exact consistent.isPast found
    · exact consistent.held other fetched (by simpa [equal] using held)

/-- Edits that land are one more step in the history of their unit. -/
theorem land {client : κ} {edits : List TextEdit} (consistent : state.Consistent)
    (held : state.held client = some unit)
    (landed : state.workspace.tryEdit unit.id unit.version edits = .ok (true, workspace)) :
    Consistent { state with workspace, landed := state.landed ++ [(unit.id, edits)] } := by
  obtain ⟨latest, edited, present, -, fits, replaced, others⟩ :=
    Workspace.snapshot?_of_landed landed
  refine ⟨fun id missing => ?_, fun id base found => ?_, fun other fetched fetches =>
    (consistent.held other fetched fetches).extend ((Goes.landed held landed).grows consistent)⟩
  · obtain ⟨absent, noEdits⟩ := consistent.unregistered id missing
    have different : id ≠ unit.id := by
      rintro rfl
      rw [present] at absent
      cases absent
    rw [editsOf_landed, if_neg different]
    exact ⟨(others id different).trans absent, noEdits⟩
  · obtain ⟨before, current, replayed⟩ := consistent.current id base found
    rw [editsOf_landed]
    by_cases equal : id = unit.id
    · subst equal
      obtain rfl := Option.some.inj (present.symm.trans current)
      rw [if_pos rfl]
      exact ⟨edited, replaced, SourceUnit.replay_snoc replayed fits⟩
    · rw [if_neg equal]
      exact ⟨before, (others id equal).trans current, replayed⟩

end Consistent

theorem Goes.consistent (goes : state.Goes step reply next) (consistent : state.Consistent) :
    next.Consistent := by
  cases goes with
  | registered added => exact consistent.register added
  | fetched found => exact consistent.fetch found
  | landed held landed => exact consistent.land held landed
  | _ => exact consistent

theorem run_cons (state : Shared κ) (step : ClientStep κ) (steps : List (ClientStep κ)) :
    state.run (step :: steps) = (state.step step).2.run steps := rfl

theorem run_consistent (consistent : state.Consistent) (steps : List (ClientStep κ)) :
    (state.run steps).Consistent := by
  induction steps generalizing state with
  | nil => exact consistent
  | cons step rest ih => exact ih ((state.goes_step step).consistent consistent)

theorem run_extends (consistent : state.Consistent) (steps : List (ClientStep κ)) :
    (state.run steps).Extends state := by
  induction steps generalizing state with
  | nil => exact .refl state
  | cons step rest ih =>
    rw [run_cons]
    have goes := state.goes_step step
    exact (ih (goes.consistent consistent)).trans (goes.grows consistent)

/-- Edits land exactly if they fit and the snapshot for which they were computed is current. -/
theorem submit_landed_iff (consistent : state.Consistent) {client : κ} {fetched : SourceUnit}
    (held : state.held client = some fetched) (edits : List TextEdit) :
    (state.step (.submit client edits)).1 = .landed ↔
      state.workspace.snapshot? fetched.id = some fetched ∧
        ∃ edited, fetched.withEdits edits = .ok edited := by
  have fetchedPast := consistent.held client fetched held
  simp only [Shared.step, held]
  constructor
  · intro reply
    split at reply
    · cases reply
    · cases reply
    · rename_i workspace landed
      obtain ⟨latest, edited, present, fresh, fits, -⟩ := Workspace.snapshot?_of_landed landed
      have own := Workspace.id_of_snapshot? present
      -- Only the versions were compared, but none of them is ever used twice.
      obtain rfl := (consistent.isPast present).eq_of_version fetchedPast own fresh
      exact ⟨present, edited, fits⟩
  · intro ⟨present, edited, fits⟩
    have landed := Workspace.tryEdit_eq_landed.mpr ⟨fetched, edited, present, rfl, fits, rfl⟩
    rw [landed]

/-- A submission that does not land changes no unit. -/
theorem workspace_of_submit (state : Shared κ) (client : κ) (edits : List TextEdit)
    (reply : (state.step (.submit client edits)).1 ≠ .landed) :
    (state.step (.submit client edits)).2.workspace = state.workspace := by
  have goes := state.goes_step (.submit client edits)
  generalize (state.step (.submit client edits)).1 = answer at goes reply
  generalize (state.step (.submit client edits)).2 = next at goes ⊢
  cases goes with
  | landed => exact absurd rfl reply
  | _ => rfl

/-- A submission that lands turns the unit into what its edits make of the fetched snapshot. -/
theorem snapshot?_of_submit (consistent : state.Consistent) {client : κ} {fetched : SourceUnit}
    (held : state.held client = some fetched) (edits : List TextEdit)
    (reply : (state.step (.submit client edits)).1 = .landed) :
    ∃ edited, fetched.withEdits edits = .ok edited ∧ edited.version = fetched.version + 1 ∧
      (state.step (.submit client edits)).2.workspace.snapshot? fetched.id = some edited ∧
      ∀ other, other ≠ fetched.id →
        (state.step (.submit client edits)).2.workspace.snapshot? other =
          state.workspace.snapshot? other := by
  obtain ⟨current, edited, fits⟩ := (submit_landed_iff consistent held edits).mp reply
  have landed := Workspace.tryEdit_eq_landed.mpr ⟨fetched, edited, current, rfl, fits, rfl⟩
  obtain ⟨latest, next, present, -, made, replaced, others⟩ :=
    Workspace.snapshot?_of_landed landed
  obtain rfl := Option.some.inj (current.symm.trans present)
  obtain rfl := Except.ok.inj (fits.symm.trans made)
  simp only [Shared.step, held, landed]
  exact ⟨edited, fits, SourceUnit.version_withEdits fits, replaced, others⟩

/--
However the steps of clients interleave, each submission is judged against the very snapshot that
its client fetched, and nothing that landed is lost: every unit is its registered snapshot with all
the edit sets that landed, its version counts them, and no version comes back with other documents.
-/
theorem submissions_serialize (workspace : Workspace) (steps : List (ClientStep κ)) :
    let state := (start workspace).run steps
    (∀ client fetched edits, state.held client = some fetched →
      let reply := (state.step (.submit client edits)).1
      let next := (state.step (.submit client edits)).2.workspace
      (reply = .landed ↔ state.workspace.snapshot? fetched.id = some fetched ∧
        ∃ edited, fetched.withEdits edits = .ok edited) ∧
      (reply = .landed → ∃ edited, fetched.withEdits edits = .ok edited ∧
        edited.version = fetched.version + 1 ∧ next.snapshot? fetched.id = some edited ∧
        ∀ other, other ≠ fetched.id → next.snapshot? other = state.workspace.snapshot? other) ∧
      (reply ≠ .landed → next = state.workspace)) ∧
    (∀ client unitId, (state.step (.fetch client unitId)).2.workspace = state.workspace) ∧
    (∀ id unit, state.workspace.snapshot? id = some unit →
      ∃ base, state.registered id = some base ∧ base.replay (state.editsOf id) = .ok unit ∧
        unit.version = base.version + (state.editsOf id).length) ∧
    (∀ later id first second, state.workspace.snapshot? id = some first →
      (state.run later).workspace.snapshot? id = some second →
      first.version = second.version → first = second) := by
  intro state
  have consistent : state.Consistent := run_consistent (start_consistent workspace) steps
  refine ⟨?_, ?_, ?_, ?_⟩
  · intro client fetched edits held
    exact ⟨submit_landed_iff consistent held edits, snapshot?_of_submit consistent held edits,
      workspace_of_submit state client edits⟩
  · intro client unitId
    simp only [Shared.step]
    split <;> rfl
  · intro id unit found
    cases registered : state.registered id with
    | none =>
      rw [(consistent.unregistered id registered).1] at found
      cases found
    | some base =>
      obtain ⟨current, present, replayed⟩ := consistent.current id base registered
      obtain rfl := Option.some.inj (found.symm.trans present)
      exact ⟨base, rfl, replayed, SourceUnit.version_replay replayed⟩
  · intro later id first second found foundLater version
    have past := (consistent.isPast found).extend (run_extends consistent later)
    have pastLater := (run_consistent consistent later).isPast foundLater
    have same := (Workspace.id_of_snapshot? found).trans (Workspace.id_of_snapshot? foundLater).symm
    exact past.eq_of_version pastLater same version

end Steps

end Shared

end FixLoop
