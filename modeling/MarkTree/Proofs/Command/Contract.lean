import MarkTree.Command.Session

namespace MarkTree

section Contract

variable {ε σ α β ι : Type} {before : σ → Prop} {job : ExceptT ε (StateM σ) α}
  {next : α → ExceptT ε (StateM σ) β} {returns : α → σ → Prop} {returnsNext : β → σ → Prop}
  {fails : ε → σ → Prop}

/-- From every state that is admitted the job returns and leaves one of these values and states, or fails
    in one of these ways with the state that it leaves. -/
structure Meets (before : σ → Prop) (job : ExceptT ε (StateM σ) α) (returns : α → σ → Prop)
    (fails : ε → σ → Prop) : Prop where
  ok : ∀ state value last, before state → job state = (.ok value, last) → returns value last
  error : ∀ state failure last, before state → job state = (.error failure, last) → fails failure last

/-- What follows a job that has returned a value starts from this value and from the state that was
    left. -/
theorem bind_of_ok {value : α} {state last : σ} (hjob : job state = (.ok value, last)) :
    (job >>= next) state = next value last := by
  simp only [bind, ExceptT.bind, ExceptT.mk, StateT.bind, hjob, ExceptT.bindCont]

theorem bind_of_error {failure : ε} {state last : σ} (hjob : job state = (.error failure, last)) :
    (job >>= next) state = (.error failure, last) := by
  simp only [bind, ExceptT.bind, ExceptT.mk, StateT.bind, hjob, ExceptT.bindCont]
  rfl

/-- The promise of the first job is what the second one may start from; both may fail in the same ways. -/
theorem Meets.bind (hjob : Meets before job returns fails)
    (hnext : ∀ value, Meets (returns value) (next value) returnsNext fails) :
    Meets before (job >>= next) returnsNext fails := by
  constructor <;> intro state value' last' hstate hrun <;> cases hresult : job state with
  | mk result last =>
    cases result with
    | ok value =>
      rw [bind_of_ok hresult] at hrun
      have hlast := hjob.ok _ _ _ hstate hresult
      first | exact (hnext value).ok _ _ _ hlast hrun | exact (hnext value).error _ _ _ hlast hrun
    | error failure =>
      rw [bind_of_error hresult] at hrun
      cases hrun <;> exact hjob.error _ _ _ hstate hresult

theorem Meets.mono {returns' : α → σ → Prop} (hjob : Meets before job returns fails)
    (hreturns : ∀ value state, returns value state → returns' value state) :
    Meets before job returns' fails where
  ok state value last hstate hrun := hreturns value last (hjob.ok state value last hstate hrun)
  error := hjob.error

end Contract

namespace Logging.Logged

variable {α : Type} {known : α → Prop} {fails : Failure → Prop}

/-- A contract of a job that writes records, whatever they are. -/
abbrev Meets (job : Logged α) (known : α → Prop) (fails : Failure → Prop) : Prop :=
  MarkTree.Meets (fun _ => True) job (fun value _ => known value) fun failure _ => fails failure

/-- The promise of the first job is what the second one may rely on; the records of both are kept. -/
theorem Meets.bind {β : Type} {job : Logged α} {next : α → Logged β} {knownNext : β → Prop}
    (hjob : Meets job known fails) (hnext : ∀ value, known value → Meets (next value) knownNext fails) :
    Meets (job >>= next) knownNext fails :=
  MarkTree.Meets.bind hjob fun value =>
    ⟨fun state value' last hvalue => (hnext value hvalue).ok state value' last trivial,
      fun state failure last hvalue => (hnext value hvalue).error state failure last trivial⟩

end Logging.Logged

/-- Some texts have been added to files. -/
inductive Files.FileTree.Grows (tree : FileTree) : FileTree → Prop where
  | refl : Grows tree tree
  | append {later : FileTree} (location : Location) (addition : String) (hgrows : Grows tree later) :
      Grows tree (later.append location addition)

namespace Files.FileTree.Grows

variable {tree later last : FileTree}

theorem trans (hfirst : tree.Grows later) (hsecond : later.Grows last) : tree.Grows last := by
  induction hsecond with
  | refl => exact hfirst
  | append location addition _ ih => exact .append location addition ih

end Files.FileTree.Grows

namespace Logging.Outlet

open Files

theorem grows_put (outlet : Outlet) (sink : Sink) (text : String) :
    outlet.files.Grows (outlet.put sink text).files := by
  cases sink with
  | console => exact .refl
  | file location => exact .append location text .refl
  | other => exact .refl

theorem grows_putMessage (outlet : Outlet) (sink : Sink) (line : String → String) (message : Message) :
    outlet.files.Grows (outlet.putMessage sink line message).files := by
  cases message with
  | text text => exact grows_put outlet sink _
  | broken fault => exact .refl

/-- A record that is logged only makes files longer, wherever it goes. -/
theorem grows_emit (outlet : Outlet) (record : Record) : outlet.files.Grows (outlet.emit record).files := by
  have hall (handlers : List Handler) (start : Outlet) : start.files.Grows (handlers.foldl
      (fun outlet handler =>
        outlet.putMessage handler.sink (handler.line outlet.clock record) record.message) start).files := by
    induction handlers generalizing start with
    | nil => exact .refl
    | cons handler rest ih => exact (grows_putMessage start _ _ _).trans (ih _)
  rw [emit]
  split
  · exact .refl
  · split
    · split
      · exact .refl
      · exact grows_putMessage outlet _ _ _
    · exact hall _ _

theorem grows_emitAll (outlet : Outlet) (records : List Record) :
    outlet.files.Grows (outlet.emitAll records).files := by
  induction records generalizing outlet with
  | nil => exact .refl
  | cons record rest ih => exact (grows_emit outlet record).trans (ih _)

end Logging.Outlet

namespace Command

/-- Since the files were like this, nothing has been done to them but adding texts. -/
def Session.Since (tree : Files.FileTree) (session : Session) : Prop :=
  tree.Grows session.outlet.files

theorem Session.Since.log {tree : Files.FileTree} {session : Session} (hsession : session.Since tree)
    (records : List Logging.Record) :
    Session.Since tree { session with outlet := session.outlet.emitAll records } :=
  hsession.trans (Logging.Outlet.grows_emitAll session.outlet records)

namespace Job

open Files Logging

variable {α : Type} {before : Session → Prop} {returns : α → Session → Prop}
  {fails : Ending → Session → Prop}

end Job

end Command

end MarkTree
