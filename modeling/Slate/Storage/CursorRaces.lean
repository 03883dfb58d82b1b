import Slate.Foundation.MaxRegister
import Slate.Storage.WatcherDelivery

/-!
# Recording a cursor from several connections

Recording a cursor reads the stored revision in one statement and writes the greater one in
another. Statements of different calls interleave, and the stored cursor is a register that
each call reads and then raises.
-/

namespace Slate.Storage

open Slate.Foundation

/-- One call of `record_app_sync_domain_cursor`; its revision is an `i64`. -/
structure CursorCall where
  latestRevision : Int
  now : Int
  isI64 : latestRevision ≤ i64Max

/-- How far one call has come. -/
inductive CursorProgress where
  | starting
  | hasRead (currentRevision : Int)
  | returned (result : Except StorageError AppSyncDomainCursorRecord)

/-- The database, and the calls that are under way on it. -/
structure CursorCalls (Caller : Type) where
  database : SlateProfileDatabase
  progress : Caller → CursorProgress

namespace SlateProfileDatabase

section Statements

variable (profile domain : String) (call : CursorCall)

/-- What a call does up to its read, which runs on a connection of its own. -/
def readCursorStatement (db : SlateProfileDatabase) : Except StorageError Int := do
  validateSyncDomain domain
  if call.latestRevision < 0 then
    throw (.invalidSyncRevision call.latestRevision)
  let current ← db.appSyncDomainCursor profile domain
  pure ((current.map (·.latestRevision)).getD 0)

/-- The write of a call that has read the current revision. -/
def writeCursorStatement (currentRevision : Int) (db : SlateProfileDatabase) :
    AppSyncDomainCursorRecord × SlateProfileDatabase :=
  let storedRevision := max currentRevision call.latestRevision
  ({ profile, domain, latestRevision := storedRevision, updatedAt := call.now },
    { db with
      syncState :=
        Rows.upsert stateKey
          (fun existing excluded =>
            { existing with value := excluded.value, updatedAt := excluded.updatedAt })
          { profile, key := appSyncDomainCursorKey domain, value := toString storedRevision
            updatedAt := call.now }
          db.syncState })

/-- A call that is not interrupted runs its read and then its write. -/
theorem recordAppSyncDomainCursor_eq_statements (db : SlateProfileDatabase) :
    db.recordAppSyncDomainCursor profile domain call.latestRevision call.now =
      (db.readCursorStatement profile domain call).map fun currentRevision =>
        db.writeCursorStatement profile domain call currentRevision := by
  unfold recordAppSyncDomainCursor readCursorStatement
  cases validateSyncDomain domain with
  | error failure => rfl
  | ok _ =>
      by_cases negative : call.latestRevision < 0
      · simp only [if_pos negative]
        rfl
      · simp only [if_neg negative]
        cases db.appSyncDomainCursor profile domain <;> rfl

/-- The revision the stored cursor stands at, 0 where none can be read. -/
def storedCursorRevision (db : SlateProfileDatabase) : Int :=
  match db.appSyncDomainCursor profile domain with
  | .ok (some cursor) => cursor.latestRevision
  | _ => 0

end Statements

end SlateProfileDatabase

open SlateProfileDatabase

namespace CursorCalls

section Runs

variable {Caller : Type} [DecidableEq Caller] (profile domain : String)
  (calls : Caller → CursorCall)

/-- Every call is still to start. -/
def start (db : SlateProfileDatabase) : CursorCalls Caller where
  database := db
  progress _ := .starting

/-- One statement of one call; a statement out of turn is not there to run. -/
def statement (state : CursorCalls Caller) : Access Caller → CursorCalls Caller
  | .read caller =>
      match state.progress caller with
      | .starting =>
          { state with
            progress := Function.update state.progress caller
              (match state.database.readCursorStatement profile domain (calls caller) with
                | .error failure => .returned (.error failure)
                | .ok currentRevision => .hasRead currentRevision) }
      | _ => state
  | .write caller =>
      match state.progress caller with
      | .hasRead currentRevision =>
          let (cursor, database) :=
            state.database.writeCursorStatement profile domain (calls caller) currentRevision
          { database
            progress := Function.update state.progress caller (.returned (.ok cursor)) }
      | _ => state

def after (statements : List (Access Caller)) (db : SlateProfileDatabase) : CursorCalls Caller :=
  runSteps (statement profile domain calls) statements (start db)

/-- No statement of the interleaving moves the stored cursor back. -/
def NeverMovesBack (statements : List (Access Caller)) (db : SlateProfileDatabase) : Prop :=
  ∀ done next, done ++ [next] <+: statements →
    (after profile domain calls done db).database.storedCursorRevision profile domain ≤
      (after profile domain calls (done ++ [next]) db).database.storedCursorRevision profile domain

/-- No call writes after another one, with a greater revision than it read and than its own, has
written since its read. -/
def NoLateWrite (statements : List (Access Caller)) (db : SlateProfileDatabase) : Prop :=
  ∀ before early since late,
    before ++ .write early :: since ++ [.write late] <+: statements →
    ∀ seenEarly seen,
      (after profile domain calls before db).progress early = .hasRead seenEarly →
      (after profile domain calls before db).progress late = .hasRead seen →
      (calls early).latestRevision ≤ max seen (calls late).latestRevision

end Runs

end CursorCalls

section ParsedRevision

theorem parseI64Digits_le {negative : Bool} {digits : List Char} {start value : Int}
    (bounded : start ≤ i64Max) (parsed : parseI64Digits negative digits start = .ok value) :
    value ≤ i64Max := by
  induction digits generalizing start with
  | nil =>
      cases Except.ok.inj parsed
      exact bounded
  | cons digit rest inductionHypothesis =>
      have step (next : Int) (parsed : (if i64Max < next then
          .error "number too large to fit in target type"
        else if next < i64Min then .error "number too small to fit in target type"
        else parseI64Digits negative rest next) = .ok value) : value ≤ i64Max := by
        split at parsed
        · cases parsed
        · rename_i notLarge
          split at parsed
          · cases parsed
          · exact inductionHypothesis (not_lt.mp notLarge) parsed
      rw [parseI64Digits] at parsed
      split at parsed
      · exact step _ parsed
      · cases parsed

/-- Only an `i64` is read from the text of a cursor. -/
theorem parseI64_le {text : String} {value : Int} (parsed : parseI64 text = .ok value) :
    value ≤ i64Max := by
  have zero : (0 : Int) ≤ i64Max := by decide
  unfold parseI64 at parsed
  split at parsed
  · cases parsed
  · cases parsed
  · cases parsed
  · exact parseI64Digits_le zero parsed
  · exact parseI64Digits_le zero parsed
  · exact parseI64Digits_le zero parsed

end ParsedRevision

namespace SlateProfileDatabase

section StatementEffects

variable {db : SlateProfileDatabase} {profile domain : String} {call : CursorCall}

theorem readCursorStatement_eq_ok_iff {currentRevision : Int} :
    db.readCursorStatement profile domain call = .ok currentRevision ↔
      domain ≠ "" ∧ 0 ≤ call.latestRevision ∧
        ∃ found, db.appSyncDomainCursor profile domain = .ok found ∧
          (found.map (·.latestRevision)).getD 0 = currentRevision := by
  unfold readCursorStatement
  rw [unit_bind_eq_ok_iff, validateSyncDomain_eq_ok_iff, check_then_eq_ok_iff,
    bind_eq_ok_iff, not_lt]
  simp only [pure, Except.pure, Except.ok.injEq]

theorem appSyncDomainCursor_le {cursor : AppSyncDomainCursorRecord}
    (read : db.appSyncDomainCursor profile domain = .ok (some cursor)) :
    cursor.latestRevision ≤ i64Max := by
  obtain ⟨_, -, read⟩ := bind_eq_ok_iff.mp read
  split at read
  · cases Except.ok.inj read
  · split at read
    · cases read
    · rename_i parsed
      cases Option.some.inj (Except.ok.inj read)
      exact parseI64_le parsed

theorem storedCursorRevision_le : db.storedCursorRevision profile domain ≤ i64Max := by
  unfold storedCursorRevision
  split
  · rename_i read
    exact appSyncDomainCursor_le read
  · decide

/-- A read that succeeds gives the stored revision. -/
theorem storedCursorRevision_of_read {currentRevision : Int}
    (read : db.readCursorStatement profile domain call = .ok currentRevision) :
    db.storedCursorRevision profile domain = currentRevision := by
  obtain ⟨-, -, found, isFound, rfl⟩ := readCursorStatement_eq_ok_iff.mp read
  unfold storedCursorRevision
  rw [isFound]
  cases found <;> rfl

/-- What a call writes is read back. -/
theorem appSyncDomainCursor_after_write {currentRevision : Int} (named : domain ≠ "")
    (nonneg : 0 ≤ call.latestRevision) (bounded : currentRevision ≤ i64Max) :
    ∃ cursor,
      (db.writeCursorStatement profile domain call currentRevision).2.appSyncDomainCursor profile
        domain = .ok (some cursor) ∧
      cursor.latestRevision = max currentRevision call.latestRevision := by
  apply appSyncDomainCursor_succeeds _ (nonneg.trans (le_max_right _ _))
    (max_le bounded call.isI64) named
  have written : (profile, appSyncDomainCursorKey domain) =
      stateKey ⟨profile, appSyncDomainCursorKey domain,
        toString (max currentRevision call.latestRevision), call.now⟩ := rfl
  rw [StoredCursor, cursorRow, writeCursorStatement, written,
    Rows.lookup_upsert_self (fun _ same => same)]
  refine ⟨_, rfl, ?_⟩
  cases Rows.lookup stateKey _ db.syncState <;> rfl

end StatementEffects

end SlateProfileDatabase

namespace CursorCalls

section Refinement

variable {Caller : Type} [DecidableEq Caller] {profile domain : String}
  {calls : Caller → CursorCall} {db : SlateProfileDatabase} {state : CursorCalls Caller}

def eraseResult : CursorProgress → Progress Int
  | .starting => .starting
  | .hasRead currentRevision => .hasRead currentRevision
  | .returned _ => .returned

/-- The stored cursor as a register. -/
def toRegister (profile domain : String) (state : CursorCalls Caller) :
    MaxRegister Caller Int where
  value := state.database.storedCursorRevision profile domain
  progress := eraseResult ∘ state.progress

/-- The calls whose read succeeds. -/
def reads (profile domain : String) (calls : Caller → CursorCall) (db : SlateProfileDatabase)
    (caller : Caller) : Bool :=
  (db.readCursorStatement profile domain (calls caller)).toBool

/-- What holds throughout a run: the same calls can read, and what they have read is an `i64`. -/
structure Sound (profile domain : String) (calls : Caller → CursorCall)
    (db : SlateProfileDatabase) (state : CursorCalls Caller) : Prop where
  reads_eq : reads profile domain calls state.database = reads profile domain calls db
  hasRead : ∀ caller seen, state.progress caller = .hasRead seen →
    reads profile domain calls db caller ∧ seen ≤ i64Max

theorem reads_iff {caller : Caller} :
    reads profile domain calls db caller ↔
      ∃ seen, db.readCursorStatement profile domain (calls caller) = .ok seen := by
  unfold reads
  cases db.readCursorStatement profile domain (calls caller) <;> simp [Except.toBool]

/-- A call that could read before a write can read after it, and the others still cannot. -/
theorem reads_after_write {caller : Caller} {seen : Int}
    (canRead : reads profile domain calls db caller) (bounded : seen ≤ i64Max) :
    reads profile domain calls
        (db.writeCursorStatement profile domain (calls caller) seen).2 =
      reads profile domain calls db := by
  obtain ⟨_, read⟩ := reads_iff.mp canRead
  obtain ⟨named, nonneg, found, isFound, -⟩ := readCursorStatement_eq_ok_iff.mp read
  obtain ⟨cursor, readBack, -⟩ :=
    @appSyncDomainCursor_after_write db profile domain (calls caller) seen named nonneg bounded
  funext other
  rw [Bool.eq_iff_iff, reads_iff, reads_iff]
  simp only [readCursorStatement_eq_ok_iff, readBack, isFound, Except.ok.injEq,
    exists_eq_left', exists_and_left, exists_eq', and_true]

theorem storedCursorRevision_after_write {caller : Caller} {seen : Int}
    (canRead : reads profile domain calls db caller) (bounded : seen ≤ i64Max) :
    (db.writeCursorStatement profile domain (calls caller) seen).2.storedCursorRevision profile
      domain = max seen (calls caller).latestRevision := by
  obtain ⟨_, read⟩ := reads_iff.mp canRead
  obtain ⟨named, nonneg, -⟩ := readCursorStatement_eq_ok_iff.mp read
  obtain ⟨cursor, readBack, revision⟩ :=
    @appSyncDomainCursor_after_write db profile domain (calls caller) seen named nonneg bounded
  rw [storedCursorRevision, readBack]
  exact revision

/-- A statement of a call is an access to the register. -/
theorem Sound.toRegister_statement (sound : Sound profile domain calls db state)
    (next : Access Caller) :
    toRegister profile domain (statement profile domain calls state next) =
      (toRegister profile domain state).access (reads profile domain calls db)
        (fun caller => (calls caller).latestRevision) next := by
  cases next with
  | read caller =>
      cases isProgress : state.progress caller with
      | starting =>
          have canRead := congrFun sound.reads_eq caller
          simp only [statement, MaxRegister.access, toRegister, isProgress, Function.comp_apply,
            eraseResult, Function.comp_update, ← canRead]
          cases read : state.database.readCursorStatement profile domain (calls caller) with
          | error failure =>
              have refused : reads profile domain calls state.database caller = false := by
                simp [reads, read, Except.toBool]
              simp [refused, eraseResult]
          | ok seen =>
              have admitted : reads profile domain calls state.database caller :=
                reads_iff.mpr ⟨seen, read⟩
              simp [admitted, storedCursorRevision_of_read read, eraseResult]
      | hasRead seen =>
          simp [statement, MaxRegister.access, toRegister, isProgress, eraseResult]
      | returned result =>
          simp [statement, MaxRegister.access, toRegister, isProgress, eraseResult]
  | write caller =>
      cases isProgress : state.progress caller with
      | starting => simp [statement, MaxRegister.access, toRegister, isProgress, eraseResult]
      | hasRead seen =>
          obtain ⟨canRead, bounded⟩ := sound.hasRead caller seen isProgress
          rw [← congrFun sound.reads_eq caller] at canRead
          simp only [statement, MaxRegister.access, toRegister, isProgress, Function.comp_apply,
            eraseResult, Function.comp_update, storedCursorRevision_after_write canRead bounded]
      | returned result =>
          simp [statement, MaxRegister.access, toRegister, isProgress, eraseResult]

theorem Sound.statement (sound : Sound profile domain calls db state) (next : Access Caller) :
    Sound profile domain calls db (statement profile domain calls state next) := by
  cases next with
  | read caller =>
      cases isProgress : state.progress caller with
      | starting =>
          refine ⟨by simp only [CursorCalls.statement, isProgress]; exact sound.reads_eq, ?_⟩
          intro other seen hasRead
          simp only [CursorCalls.statement, isProgress] at hasRead
          by_cases same : other = caller
          · subst same
            simp only [Function.update_self] at hasRead
            split at hasRead
            · cases hasRead
            · rename_i current read
              cases hasRead
              rw [← sound.reads_eq, ← storedCursorRevision_of_read read]
              exact ⟨reads_iff.mpr ⟨_, read⟩, storedCursorRevision_le⟩
          · rw [Function.update_of_ne same] at hasRead
            exact sound.hasRead other seen hasRead
      | hasRead seen => simpa [CursorCalls.statement, isProgress] using sound
      | returned result => simpa [CursorCalls.statement, isProgress] using sound
  | write caller =>
      cases isProgress : state.progress caller with
      | starting => simpa [CursorCalls.statement, isProgress] using sound
      | hasRead seen =>
          obtain ⟨canRead, bounded⟩ := sound.hasRead caller seen isProgress
          rw [← congrFun sound.reads_eq caller] at canRead
          simp only [CursorCalls.statement, isProgress]
          refine ⟨(reads_after_write canRead bounded).trans sound.reads_eq, ?_⟩
          intro other seen hasRead
          by_cases same : other = caller
          · subst same
            simp at hasRead
          · simp only [Function.update_of_ne same] at hasRead
            exact sound.hasRead other seen hasRead
      | returned result => simpa [CursorCalls.statement, isProgress] using sound

theorem sound_after (statements : List (Access Caller)) :
    Sound profile domain calls db (after profile domain calls statements db) := by
  induction statements using List.reverseRecOn with
  | nil => exact ⟨rfl, fun caller seen hasRead => nomatch hasRead⟩
  | append_singleton statements next ih =>
      rw [after, runSteps_append_singleton]
      exact ih.statement next

/-- The interleaving of the statements is a run of the register. -/
theorem toRegister_after (statements : List (Access Caller)) :
    toRegister profile domain (after profile domain calls statements db) =
      runSteps (MaxRegister.access (reads profile domain calls db)
          (fun caller => (calls caller).latestRevision)) statements
        (toRegister profile domain (start db)) := by
  induction statements using List.reverseRecOn with
  | nil => rfl
  | append_singleton statements next ih =>
      rw [runSteps_append_singleton, ← ih, after, runSteps_append_singleton]
      exact (sound_after statements).toRegister_statement next

theorem toRegister_hasRead_iff {caller : Caller} {seen : Int} :
    (toRegister profile domain state).progress caller = .hasRead seen ↔
      state.progress caller = .hasRead seen := by
  simp only [toRegister, Function.comp_apply]
  cases state.progress caller <;> simp [eraseResult]

theorem neverMovesBack_iff_neverDecreases {statements : List (Access Caller)} :
    NeverMovesBack profile domain calls statements db ↔
      MaxRegister.NeverDecreases (reads profile domain calls db)
        (fun caller => (calls caller).latestRevision) statements
        (toRegister profile domain (start db)) := by
  simp only [NeverMovesBack, MaxRegister.NeverDecreases, ← toRegister_after]
  rfl

theorem noLateWrite_iff_neverOvertaken {statements : List (Access Caller)} :
    NoLateWrite profile domain calls statements db ↔
      MaxRegister.NeverOvertaken (reads profile domain calls db)
        (fun caller => (calls caller).latestRevision) statements
        (toRegister profile domain (start db)) := by
  simp only [NoLateWrite, MaxRegister.NeverOvertaken, MaxRegister.RaisedSinceRead,
    ← toRegister_after, toRegister_hasRead_iff]
  constructor
  · intro noLate done late isPrefix
    rintro ⟨before, early, since, rfl, seenEarly, seen, earlyRead, hasRead, raised⟩
    exact not_lt.mpr (noLate before early since late isPrefix seenEarly seen earlyRead hasRead)
      raised
  · intro never before early since late isPrefix seenEarly seen earlyRead hasRead
    by_contra raised
    exact never _ late isPrefix
      ⟨before, early, since, rfl, seenEarly, seen, earlyRead, hasRead, not_le.mp raised⟩

/-- The stored cursor never moves back exactly when no call writes after another one, with a
greater revision than the first read and brings, has written since its read. -/
theorem cursor_never_moves_back_iff {statements : List (Access Caller)} :
    NeverMovesBack profile domain calls statements db ↔
      NoLateWrite profile domain calls statements db := by
  rw [neverMovesBack_iff_neverDecreases, noLateWrite_iff_neverOvertaken]
  apply MaxRegister.neverDecreases_iff
  intro caller seen hasRead
  cases hasRead

/-- A call with revision 3 and one with revision 5. -/
def staleAndNewerCall : Bool → CursorCall
  | false => { latestRevision := 3, now := 10, isI64 := by decide }
  | true => { latestRevision := 5, now := 10, isI64 := by decide }

/-- The call with the smaller revision reads before and writes after the other one. -/
theorem cursor_moves_back :
    ¬∀ (calls : Bool → CursorCall) (profile domain : String) (statements : List (Access Bool))
      (db : SlateProfileDatabase), NeverMovesBack profile domain calls statements db := by
  intro always
  have kept := always staleAndNewerCall "default" "settings"
    [.read false, .read true, .write true, .write false] { localSyncDeviceId := "laptop" }
    [.read false, .read true, .write true] (.write false) (List.prefix_refl _)
  revert kept
  decide +kernel

end Refinement

end CursorCalls

end Slate.Storage
