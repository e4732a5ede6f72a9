import DesignCompiler.Command.Run
import DesignCompiler.Proofs.Command.Files
import Mathlib.Control.Monad.Basic

set_option autoImplicit false

/-!
# Output as a whole or not at all

A task falls into what it makes of the files it reads and, as its last step, one write. So a task
that fails has written nothing, and a task that writes has written all that was generated. Of the
files no more is asked than that reading and refused writing change nothing, and that a write that
is done changes the file its path leads to; those of a file tree are such files.
-/
namespace DesignCompiler

inductive Plan where
  | tell (message : String)
  | write (path component : String)

/-- What is seen of files in a state: where a path leads, and what lies at a place. -/
structure FileView (σ Place : Type) where
  locate : σ → String → Option Place
  find? : σ → Place → Option Entry

def FileView.Holds {σ Place : Type} (view : FileView σ Place) (s : σ) (path text : String) : Prop :=
  ∃ place bytes, view.locate s path = some place ∧ view.find? s place = some (.file bytes) ∧
    textOfBytes bytes = .ok text

/-- The path has led to a place where now the text lies, and every other place is as it was. -/
structure FileView.Written {σ Place : Type} (view : FileView σ Place) (before after : σ)
    (path text : String) (place : Place) : Prop where
  located : view.locate before path = some place
  found : view.find? after place = some (.file (Text.encode text.toList))
  kept : ∀ other ≠ place, view.find? after other = view.find? before other

section Files
variable {σ Place : Type} {files : Files (StateM σ)} {view : FileView σ Place}

def Files.textIn (files : Files (StateM σ)) (s : σ) (path : String) : Except FileError String :=
  ((files.read path).run s).1

/-- Reading changes nothing, and neither does writing to a path that cannot be written to. -/
structure Files.Careful (files : Files (StateM σ)) : Prop where
  read : ∀ path s, ((files.read path).run s).2 = s
  refused : ∀ path text s cause after,
    (files.write path text).run s = (.error cause, after) → after = s

theorem Files.Careful.run_bind_read {α : Type} (hfiles : files.Careful) (path : String)
    (next : Except FileError String → StateM σ α) (s : σ) :
    (files.read path >>= next).run s = (next (files.textIn s path)).run s := by
  have hread : (files.read path).run s = pure (files.textIn s path, s) :=
    Prod.ext rfl (hfiles.read path s)
  rw [StateT.run_bind, hread, pure_bind]

namespace Task

def plan (read : String → Except FileError String) : Task → Except Failure Plan
  | .build url name response out => do
    let text ← (read response).mapError fun cause => .noResponse (.unreadable response cause)
    let reply ← ((Request.mk url name).handle (m := Id)
      (SavedResponse.mk text none).fetch).mapError (.noComponent name)
    return .write (out.getD (Command.defaultOutput response name)) reply.component
  | .render path name out => do
    let text ← (read path).mapError (.unread path)
    let component ← (Component.generateFromText text name).mapError (.undecoded path)
    return .write (out.getD (Command.defaultOutput path name)) component
  | .check path => do
    let text ← (read path).mapError (.unread path)
    let root ← (Node.ofText text).mapError (.undecoded path)
    return .tell ("OK: " ++ path ++ " (" ++ String.ofList (decimal root.count) ++
      " nodes, depth " ++ String.ofList (decimal root.depth) ++ ")\n")

theorem run_readDesign (hfiles : files.Careful) (path : String) (s : σ) :
    (readDesign files path).run s =
      pure (match files.textIn s path with
        | .error cause => .error (.unread path cause)
        | .ok text => (Node.ofText text).mapError (.undecoded path), s) := by
  rw [readDesign, hfiles.run_bind_read]
  cases files.textIn s path <;> rfl

theorem run_ofFile (hfiles : files.Careful) (path : String) (s : σ) :
    (SavedResponse.ofFile files path).run s =
      pure (match files.textIn s path with
        | .error cause => .error (.unreadable path cause)
        | .ok text => .ok ⟨text, none⟩, s) := by
  rw [SavedResponse.ofFile, hfiles.run_bind_read]
  cases files.textIn s path <;> rfl

theorem run_eq_plan (hfiles : files.Careful) (task : Task) (s : σ) :
    (task.run files).run s =
      match task.plan (files.textIn s) with
      | .error failure => (.error failure, s)
      | .ok (.tell message) => (.ok message, s)
      | .ok (.write path component) => (finish files path component).run s := by
  cases task with
  | build url name response out =>
    simp only [run, StateT.run_bind, run_ofFile hfiles, pure_bind, plan]
    cases files.textIn s response with
    | error cause => rfl
    | ok text =>
      simp only [Except.mapError, bind, Except.bind]
      cases (Request.mk url name).handle (m := Id) (SavedResponse.mk text none).fetch <;> rfl
  | render path name out =>
    simp only [run, StateT.run_bind, run_readDesign hfiles, pure_bind, plan]
    cases files.textIn s path with
    | error cause => rfl
    | ok text =>
      simp only [Component.generateFromText, Except.mapError, bind, Except.bind]
      cases Node.ofText text <;> rfl
  | check path =>
    simp only [run, StateT.run_bind, run_readDesign hfiles, pure_bind, plan]
    cases files.textIn s path with
    | error cause => rfl
    | ok text =>
      simp only [Except.mapError, bind, Except.bind]
      cases Node.ofText text <;> rfl

theorem run_finish (path component : String) (s : σ) :
    (finish files path component).run s =
      match (files.write path component).run s with
      | (.error cause, after) => (.error (.unwritten path cause), after)
      | (.ok (), after) => (.ok ("Built: " ++ path ++ "\n"), after) := by
  rw [finish, StateT.run_bind]
  obtain ⟨_ | _, after⟩ := (files.write path component).run s <;> rfl

end Task

/-- How files are left by what a task had left to do. -/
def Plan.Done (files : Files (StateM σ)) (before after : σ) : Plan → Prop
  | .tell _ => after = before
  | .write path component => (files.write path component).run before = (.ok (), after)

namespace Command

theorem run_of_ok {environment : String → Option String} {arguments : List String} {task : Task}
    (h : Task.ofArguments environment arguments = .ok task) (s : σ) :
    (run files environment arguments).run s =
      (.ofResult ((task.run files).run s).1, ((task.run files).run s).2) := by
  rw [run, h]
  rfl

theorem code_ofResult_eq_zero (result : Except Failure String) :
    (Outcome.ofResult result).code = 0 ↔ ∃ message, result = .ok message := by
  cases result <;> simp [Outcome.ofResult]

end Command

namespace Task
variable {read : String → Except FileError String}

theorem code_eq_zero_iff_done (hfiles : files.Careful) (task : Task) (s : σ) :
    (Outcome.ofResult ((task.run files).run s).1).code = 0 ↔
      ∃ plan, task.plan (files.textIn s) = .ok plan ∧
        plan.Done files s ((task.run files).run s).2 := by
  rw [Command.code_ofResult_eq_zero, run_eq_plan hfiles]
  cases task.plan (files.textIn s) with
  | error failure => simp
  | ok plan =>
    cases plan with
    | tell message => simp [Plan.Done]
    | write path component =>
      simp only [run_finish, Except.ok.injEq, exists_eq_left', Plan.Done]
      cases (files.write path component).run s with
      | mk result after =>
        cases result with
        | error cause => exact iff_of_false (fun h => nomatch h) (fun h => nomatch h)
        | ok done => simp

theorem plan_render_eq_ok {path name : String} {out : Option String} {p : Plan} :
    plan read (.render path name out) = .ok p ↔
      ∃ text component, read path = .ok text ∧
        Component.generateFromText text name = .ok component ∧
        .write (out.getD (Command.defaultOutput path name)) component = p := by
  simp only [plan, Json.bind_eq_ok, Json.mapError_eq_ok, pure, Except.pure, Except.ok.injEq,
    exists_and_left]

theorem plan_build_eq_ok {url name response : String} {out : Option String} {p : Plan} :
    plan read (.build url name response out) = .ok p ↔
      ∃ text reply, read response = .ok text ∧
        (Request.mk url name).handle (m := Id) (SavedResponse.mk text none).fetch = .ok reply ∧
        .write (out.getD (Command.defaultOutput response name)) reply.component = p := by
  simp only [plan, Json.bind_eq_ok, Json.mapError_eq_ok, pure, Except.pure, Except.ok.injEq,
    exists_and_left]

theorem code_render_eq_zero_iff (hfiles : files.Careful) (path name : String)
    (out : Option String) (s : σ) :
    (Outcome.ofResult (((render path name out).run files).run s).1).code = 0 ↔
      ∃ text component, files.textIn s path = .ok text ∧
        Component.generateFromText text name = .ok component ∧
        (files.write (out.getD (Command.defaultOutput path name)) component).run s =
          (.ok (), (((render path name out).run files).run s).2) := by
  rw [code_eq_zero_iff_done hfiles]
  constructor
  · rintro ⟨p, hplan, hdone⟩
    obtain ⟨text, component, htext, hcomponent, rfl⟩ := plan_render_eq_ok.1 hplan
    exact ⟨text, component, htext, hcomponent, hdone⟩
  · rintro ⟨text, component, htext, hcomponent, hwrite⟩
    exact ⟨_, plan_render_eq_ok.2 ⟨text, component, htext, hcomponent, rfl⟩, hwrite⟩

theorem code_build_eq_zero_iff (hfiles : files.Careful) (url name response : String)
    (out : Option String) (s : σ) :
    (Outcome.ofResult (((build url name response out).run files).run s).1).code = 0 ↔
      ∃ text reply, files.textIn s response = .ok text ∧
        (Request.mk url name).handle (m := Id) (SavedResponse.mk text none).fetch = .ok reply ∧
        (files.write (out.getD (Command.defaultOutput response name)) reply.component).run s =
          (.ok (), (((build url name response out).run files).run s).2) := by
  rw [code_eq_zero_iff_done hfiles]
  constructor
  · rintro ⟨p, hplan, hdone⟩
    obtain ⟨text, reply, htext, hreply, rfl⟩ := plan_build_eq_ok.1 hplan
    exact ⟨text, reply, htext, hreply, hdone⟩
  · rintro ⟨text, reply, htext, hreply, hwrite⟩
    exact ⟨_, plan_build_eq_ok.2 ⟨text, reply, htext, hreply, rfl⟩, hwrite⟩

end Task
end Files

namespace FileTree

def view : FileView FileTree Place where
  locate t path := (t.locate path.toList).toOption
  find? := find?

theorem run_write (t : FileTree) (path text : String) :
    (access.write path text).run t =
      match t.writeText path text with
      | .ok after => (.ok (), after)
      | .error cause => (.error cause, t) := rfl

theorem written_of_run_write {t after : FileTree} {path text : String}
    (h : (access.write path text).run t = (.ok (), after)) :
    ∃ place, t.Written after path text place := by
  rw [run_write] at h
  split at h
  · rename_i written hwrite
    cases h
    exact written_of_writeText hwrite
  · cases h

theorem careful_access : access.Careful where
  read _ _ := rfl
  refused path text t cause after h := by
    rw [run_write] at h
    split at h <;> cases h
    rfl

end FileTree

namespace Command
variable {σ Place : Type} {files : Files (StateM σ)} {view : FileView σ Place}
  {environment : String → Option String} {arguments : List String} {s after : σ}
  {outcome : Outcome}

end Command
end DesignCompiler
