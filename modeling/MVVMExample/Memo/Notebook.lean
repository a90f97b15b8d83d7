import MVVMExample.Memo.App
import MVVMExample.Storage.Journal

/-!
# The notebook: what the memo part of the app is for

A notebook is a finite map from ids to titles and texts, displayed in id order,
and at most one open session on a memo. Its contents are given by a journal:
what a memo shows is what was last recorded for its id. There are no references,
no cached list and no copies that could go stale.
-/

namespace MVVMExample

open Storage Transition

/-- The memo on screen. -/
structure Session where
  id : SwiftInt
  title : String
  text : Option String

/-- The initial memos, what has happened to them, and the open session. -/
structure Notebook where
  initial : Finmap fun _ : SwiftInt => MemoContent
  journal : List (Entry SwiftInt MemoContent)
  session : Option Session

namespace Notebook

/-- A notebook with given memos and no history. -/
def new (initial : Finmap fun _ : SwiftInt => MemoContent) : Notebook where
  initial := initial
  journal := []
  session := none

/-- The current memos. -/
def memos (notebook : Notebook) : Finmap fun _ : SwiftInt => MemoContent :=
  Journal.apply notebook.initial notebook.journal

/-- The current ids in increasing order. -/
def ids (notebook : Notebook) : List SwiftInt :=
  notebook.memos.keys.sort

/-- The current memos in id order. -/
def listing (notebook : Notebook) : List Memo :=
  notebook.ids.filterMap fun id =>
    (notebook.memos.lookup id).map fun content =>
      { id := id
        memoTitle := content.memoTitle
        memoText := content.memoText }

/-- The id of the next memo. -/
def freshId (notebook : Notebook) : Except Crash SwiftInt :=
  match notebook.ids.getLast? with
  | none => .ok 1
  | some greatest => greatest.add 1

/-- Add an entry to the journal. -/
def record
    (notebook : Notebook)
    (entry : Entry SwiftInt MemoContent) : Notebook :=
  { notebook with journal := notebook.journal ++ [entry] }

@[simp] theorem memos_record
    (notebook : Notebook)
    (entry : Entry SwiftInt MemoContent) :
    (notebook.record entry).memos = entry.perform notebook.memos :=
  Journal.apply_snoc _ _ _

/-- What a memo shows before it is saved for the first time. -/
def blank (id : SwiftInt) : MemoContent where
  memoTitle := "title " ++ toString id.val
  memoText := ""

/-- Open a session on the memo with an id. -/
def openSession (notebook : Notebook) (id : SwiftInt) : Notebook :=
  { notebook with
      session := (notebook.memos.lookup id).map fun content =>
        ⟨id, content.memoTitle, some content.memoText⟩ }

/-- Record what the open session shows. -/
def save (notebook : Notebook) : Notebook :=
  match notebook.session with
  | some ⟨id, title, some text⟩ => notebook.record (.put id ⟨title, text⟩)
  | _ => notebook

/-- Perform one input. -/
def perform (notebook : Notebook) : MemoApp.Input → Except Crash Notebook
  | .addMemo =>
      match notebook.freshId with
      | .error crash => .error crash
      | .ok id => .ok (notebook.record (.put id (blank id)))
  | .deleteMemo index =>
      match notebook.ids[index]? with
      | none => .error .indexOutOfRange
      | some id => .ok (notebook.record (.erase id))
  | .openMemo index =>
      match notebook.ids[index]? with
      | none => .error .indexOutOfRange
      | some id => .ok (notebook.openSession id)
  | .editText _ text =>
      .ok { notebook with
              session := notebook.session.map fun session =>
                { session with text := text } }
  | .tapSave _ => .ok notebook.save
  | .closeMemo _ => .ok { notebook with session := none }

/-- The list is used without an open session, and the session is the only
detail. -/
def CanPerform (notebook : Notebook) : MemoApp.Input → Prop
  | .addMemo => notebook.session = none
  | .deleteMemo index =>
      notebook.session = none ∧ index < notebook.ids.length
  | .openMemo index =>
      notebook.session = none ∧ index < notebook.ids.length
  | .editText detail _ => notebook.session ≠ none ∧ detail = 0
  | .tapSave detail => notebook.session ≠ none ∧ detail = 0
  | .closeMemo detail => notebook.session ≠ none ∧ detail = 0

/-- The notebook as a system. -/
def system : System Notebook MemoApp.Input Crash where
  Enabled := CanPerform
  step := perform

/-- The initial memos never change. -/
theorem initial_of_run
    {initial : Finmap fun _ : SwiftInt => MemoContent}
    {inputs : List MemoApp.Input}
    {notebook : Notebook}
    (run : system.Run (new initial) inputs notebook) :
    notebook.initial = initial := by
  refine System.Run.invariant (fun _ notebook => notebook.initial = initial)
    rfl ?_ run
  rintro _ input before after rfl _ performed
  cases input with
  | addMemo | deleteMemo | openMemo =>
      simp only [system, perform] at performed
      split at performed
      · contradiction
      · cases performed
        rfl
  | editText | closeMemo =>
      cases performed
      rfl
  | tapSave =>
      cases performed
      unfold save
      split <;> rfl

/-- A memo shows what was last recorded for its id. -/
theorem lookup_memos
    {initial : Finmap fun _ : SwiftInt => MemoContent}
    {inputs : List MemoApp.Input}
    {notebook : Notebook}
    (run : system.Run (new initial) inputs notebook)
    (id : SwiftInt) :
    notebook.memos.lookup id = Journal.recorded initial notebook.journal id := by
  rw [memos, Journal.lookup_apply, initial_of_run run]

end Notebook
end MVVMExample
