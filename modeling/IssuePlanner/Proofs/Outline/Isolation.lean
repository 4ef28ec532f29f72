import IssuePlanner.Outline.Snapshot
import IssuePlanner.Proofs.Data.Entries
import IssuePlanner.Proofs.Session.Run
import IssuePlanner.Proofs.Text.Utf8
import Mathlib.Data.List.Basic

/-! One file among the others of an outline snapshot. What a path adds is told by its own name and bytes (`entryAt`),
and a snapshot is made of what its paths add, or is the failure of the first path that fails (`perform_snapshot`). A
path fails if the system does not tell what it names, and a script also if its bytes are no text or if the interpreter
cannot parse it (`Spoils`). So one bad file ends the whole snapshot (`snapshot_made_iff_none_spoils`). -/

namespace IssuePlanner.Outline

open IssuePlanner.Action

/-! ### What is shown of one file -/

structure Tools where
  server : String → ByteArray → SymbolServer
  index : String → ByteArray → Option (List Script.Symbol)
  interpreter : Script.Interpreter

def Tools.of (s : Session) : Tools := ⟨s.symbolServer, s.symbolIndex, s.interpreter⟩

/-- The text that bytes stand for, with line ends of one kind. -/
def textOf (bytes : ByteArray) : Except Failure String :=
  match Text.Utf8.decode? bytes with
  | .error fault => .error (.unreadableText fault)
  | .ok text => .ok (String.ofList (Text.unifyNewlines text.toList))

def Tools.lines (t : Tools) (path : String) (bytes : ByteArray) : Except Failure (List String) :=
  match language? path with
  | some .script => (textOf bytes).bind (Script.outline t.interpreter (t.index path bytes))
  | some .package => .ok (Package.outline (t.server path bytes) (textOf bytes).toOption)
  | none => .ok []

/-- What stands in a snapshot for a file, by its name and bytes. -/
def Tools.shown (t : Tools) (path : String) (bytes : ByteArray) : Except Failure (Option String) :=
  (t.lines path bytes).map fun lines => if lines = [] then none else some (Text.unlines lines)

def Tools.shown? (t : Tools) (path : String) (bytes : ByteArray) : Option String := (t.shown path bytes).toOption.join

/-- What a path adds to a snapshot. A path that names no file adds nothing. -/
def entryAt (s : Session) (path : String) : Except Failure (Option String) :=
  if language? path = none then .ok none
  else (s.isFile path).bind fun _ => ((s.files.bytes path).toOption.map ((Tools.of s).shown path)).getD (.ok none)

inductive Spoils (s : Session) (path : String) : Failure → Prop where
  | untold {e : Failure} (hsource : language? path ≠ none) (h : s.isFile path = .error e) : Spoils s path e
  | garbled {bytes : ByteArray} {fault : Text.Utf8.Fault} (hscript : language? path = some .script)
      (hfile : s.isFile path = .ok true) (hbytes : s.files.bytes path = .ok bytes)
      (h : Text.Utf8.decode? bytes = .error fault) : Spoils s path (.unreadableText fault)
  | tooDeep {bytes : ByteArray} {text : String} {fault : InterpreterFault} (hscript : language? path = some .script)
      (hfile : s.isFile path = .ok true) (hbytes : s.files.bytes path = .ok bytes) (htext : textOf bytes = .ok text)
      (h : s.interpreter.parseFault text = some fault) : Spoils s path (.interpreter fault)

variable {s : Session} {path : String} {bytes : ByteArray} {language : Language} {e : Failure}

theorem bytes_isSome (s : Session) (path : String) :
    (s.files.bytes path).toOption.isSome = true ↔ ∃ b, s.files.find? path = some (.file b) := by
  unfold FileTree.bytes
  rcases s.files.find? path with _ | _ | _ | _ <;> simp [Except.toOption]

/-- Where the system tells what a path names, it names a file exactly if there are bytes. -/
theorem isFile_eq_ok {b : Bool} (h : s.isFile path = .ok b) : b = (s.files.bytes path).toOption.isSome := by
  unfold Session.isFile at h
  rw [Bool.eq_iff_iff, bytes_isSome]
  cases hfault : s.statusFault path with
  | some fault =>
    rw [hfault] at h
    cases h
  | none =>
    rw [hfault] at h
    unfold FileTree.status at h
    rcases hfind : s.files.find? path with _ | _ | _ | _
    · rw [hfind] at h
      by_cases hlong : s.files.faultAt path = .nameTooLong
      · simp [hlong] at h
      · simp [hlong] at h
        simp [h]
    all_goals
      rw [hfind] at h
      cases h
      simp

/-- The system does not tell what a path names, or tells that it is no file, or that it is one, which then has bytes. -/
theorem isFile_cases (s : Session) (path : String) :
    (∃ e, s.isFile path = .error e) ∨ (s.isFile path = .ok false ∧ ∃ f, s.files.bytes path = .error f) ∨
      ∃ bytes, s.isFile path = .ok true ∧ s.files.bytes path = .ok bytes := by
  cases hfile : s.isFile path with
  | error e => exact .inl ⟨e, rfl⟩
  | ok b =>
    have hb := isFile_eq_ok hfile
    cases hbytes : s.files.bytes path with
    | error f =>
      rw [hbytes] at hb
      subst hb
      exact .inr (.inl ⟨rfl, f, rfl⟩)
    | ok bytes =>
      rw [hbytes] at hb
      subst hb
      exact .inr (.inr ⟨bytes, rfl, rfl⟩)

/-- A path that leads nowhere is no file, unless one of its names is too long to be looked up. -/
theorem isFile_of_find?_eq_none (hfault : s.statusFault path = none) (hfind : s.files.find? path = none) :
    s.isFile path = if s.files.faultAt path = .nameTooLong then .error (.file .nameTooLong (s.root ++ "/" ++ path))
      else .ok false := by
  rw [Session.isFile, hfault, Option.map_none, Option.getD_none, FileTree.status, hfind]
  by_cases hlong : s.files.faultAt path = .nameTooLong
  · simp only [hlong, if_true]
  · simp only [hlong, if_false]

theorem text_of_bytes (hbytes : s.files.bytes path = .ok bytes) (shown : String) :
    s.files.text shown path = textOf bytes := by
  rw [FileTree.text, hbytes]
  rfl

theorem ofFile_eq (hlanguage : language? path = some language) (hbytes : s.files.bytes path = .ok bytes) :
    ofFile s path language = (Tools.of s).lines path bytes := by
  rw [Tools.lines, hlanguage]
  cases language with
  | script =>
    simp only [ofFile, text_of_bytes hbytes, hbytes]
    rfl
  | package =>
    simp only [ofFile, text_of_bytes hbytes, hbytes]
    rfl

/-! ### One path after the other -/

def putEntry (s : Session) (contents : List (String × String)) (path : String) : List (String × String) :=
  (entryAt s path).toOption.join.elim contents (Entries.put path · contents)

/-- Why a path ends a snapshot, if it does. -/
def failureAt? (s : Session) (path : String) : Option Failure :=
  match entryAt s path with
  | .error e => some e
  | .ok _ => none

theorem addOutlines_cons (hlanguage : language? path = some language) (contents : List (String × String))
    (paths : List String) :
    addOutlines s language contents (path :: paths) =
      (failureAt? s path).elim (addOutlines s language (putEntry s contents path) paths) .error := by
  have hsource : ¬language? path = none := by simp [hlanguage]
  rw [addOutlines, if_pos hlanguage, failureAt?, putEntry, entryAt, if_neg hsource]
  rcases isFile_cases s path with ⟨e, hfile⟩ | ⟨hfile, f, hbytes⟩ | ⟨bytes, hfile, hbytes⟩
  · rw [hfile]
    rfl
  · rw [hfile, hbytes]
    rfl
  · rw [hfile, hbytes]
    simp only [bind, Except.bind, ofFile_eq hlanguage hbytes, Except.toOption, Option.map_some, Option.getD_some,
      if_true, Tools.shown]
    rcases (Tools.of s).lines path bytes with e | _ | ⟨line, lines⟩ <;> rfl

theorem addOutlines_cons_of_ne (hlanguage : language? path ≠ some language) (contents : List (String × String))
    (paths : List String) :
    addOutlines s language contents (path :: paths) = addOutlines s language contents paths := by
  rw [addOutlines, if_neg hlanguage]

def inLanguage (language : Language) (paths : List String) : List String :=
  paths.filter fun p => language? p = some language

/-- A pass adds up what its paths add, unless one of them fails. -/
theorem addOutlines_eq (s : Session) (language : Language) (contents : List (String × String)) (paths : List String) :
    addOutlines s language contents paths = ((inLanguage language paths).findSome? (failureAt? s)).elim
      (.ok ((inLanguage language paths).foldl (putEntry s) contents)) .error := by
  induction paths generalizing contents with
  | nil => rfl
  | cons path paths ih =>
    by_cases hlanguage : language? path = some language
    · have hcons : inLanguage language (path :: paths) = path :: inLanguage language paths :=
        List.filter_cons_of_pos (by simpa using hlanguage)
      rw [addOutlines_cons hlanguage, hcons, List.findSome?_cons, List.foldl_cons, ih]
      cases failureAt? s path <;> rfl
    · have hcons : inLanguage language (path :: paths) = inLanguage language paths :=
        List.filter_cons_of_neg (by simpa using hlanguage)
      rw [addOutlines_cons_of_ne hlanguage, hcons, ih]

/-- The paths that have outlines in the order in which they are visited: scripts come first. -/
def visited (paths : List String) : List String := inLanguage .script paths ++ inLanguage .package paths

theorem mem_visited {paths : List String} : path ∈ visited paths ↔ path ∈ paths ∧ language? path ≠ none := by
  simp only [visited, inLanguage, List.mem_append, List.mem_filter, decide_eq_true_eq, ← and_or_left]
  refine and_congr_right fun _ => ?_
  rcases language? path with _ | _ | _ <;> simp

/-- The failure that ends the outlines of some paths, if one does. -/
def ending? (s : Session) (paths : List String) : Option Failure := (visited paths).findSome? (failureAt? s)

/-- The snapshot with outlines in place of contents, or why there is none. -/
def outlined (s : Session) (paths : List String) : Except Failure Snapshot :=
  (ending? s paths).elim (.ok ⟨paths, (visited paths).foldl (putEntry s) []⟩) .error

/-- Two snapshots of the same paths are equal if they end alike and, where they do not end, show the same. -/
theorem outlined_eq {s₁ s₂ : Session} {paths : List String} (hending : ending? s₁ paths = ending? s₂ paths)
    (h : ending? s₁ paths = none → ∀ p ∈ paths, (entryAt s₁ p).toOption.join = (entryAt s₂ p).toOption.join) :
    outlined s₁ paths = outlined s₂ paths := by
  unfold outlined
  rw [← hending]
  cases hnone : ending? s₁ paths with
  | some e => rfl
  | none =>
    have hcontents : (visited paths).foldl (putEntry s₁) [] = (visited paths).foldl (putEntry s₂) [] := by
      refine List.foldl_ext _ _ _ fun contents p hp => ?_
      rw [putEntry, h hnone p (mem_visited.1 hp).1, putEntry]
    rw [hcontents]

theorem ending?_congr {s₁ s₂ : Session} {paths : List String} (h : ∀ p ∈ visited paths, entryAt s₁ p = entryAt s₂ p) :
    ending? s₁ paths = ending? s₂ paths := by
  have hending (s : Session) : ending? s paths = ((visited paths).map (failureAt? s)).findSome? id := by
    rw [List.findSome?_map]
    rfl
  have hfailures : (visited paths).map (failureAt? s₁) = (visited paths).map (failureAt? s₂) := by
    refine List.map_congr_left fun p hp => ?_
    rw [failureAt?, h p hp, failureAt?]
  rw [hending, hending, hfailures]

theorem perform_snapshot (s : Session) (paths : List String) :
    perform (snapshot paths) s = (outlined s paths, s) := by
  simp only [snapshot, outlined, ending?, visited, perform_bind, perform_get, andThen_ok, perform_ofExcept,
    addOutlines_eq, List.findSome?_append, List.foldl_append]
  cases (inLanguage .script paths).findSome? (failureAt? s) with
  | some e => rfl
  | none =>
    simp only [Option.elim_none, andThen_ok, perform_bind, perform_ofExcept, Option.none_or]
    cases (inLanguage .package paths).findSome? (failureAt? s) <;> rfl

theorem failureAt?_eq_some_iff : failureAt? s path = some e ↔ entryAt s path = .error e := by
  unfold failureAt?
  cases entryAt s path <;> simp

/-- The file of a source is read only if the system tells that it is one. -/
theorem entryAt_of_file (hsource : language? path ≠ none) (hfile : s.isFile path = .ok true)
    (hbytes : s.files.bytes path = .ok bytes) : entryAt s path = (Tools.of s).shown path bytes := by
  rw [entryAt, if_neg hsource, hfile, hbytes]
  rfl

theorem textOf_eq_error_iff :
    textOf bytes = .error e ↔ ∃ fault, Text.Utf8.decode? bytes = .error fault ∧ e = .unreadableText fault := by
  unfold textOf
  cases Text.Utf8.decode? bytes <;> simp [eq_comm]

theorem outline_eq_error_iff {i : Script.Interpreter} {index : Option (List Script.Symbol)} {text : String} :
    Script.outline i index text = .error e ↔ ∃ fault, i.parseFault text = some fault ∧ e = .interpreter fault := by
  unfold Script.outline
  cases i.parseFault text <;> simp [eq_comm]

/-- Only a script has no outline. -/
theorem lines_eq_error_iff {t : Tools} : t.lines path bytes = .error e ↔ language? path = some .script ∧
    (textOf bytes = .error e ∨
      ∃ text, textOf bytes = .ok text ∧ Script.outline t.interpreter (t.index path bytes) text = .error e) := by
  unfold Tools.lines
  rcases language? path with _ | _ | _
  · simp
  · cases textOf bytes <;> simp [Except.bind]
  · simp

theorem shown_eq_error_iff {t : Tools} : t.shown path bytes = .error e ↔ t.lines path bytes = .error e := by
  unfold Tools.shown
  cases t.lines path bytes <;> simp [Except.map]

theorem spoils_iff : Spoils s path e ↔ entryAt s path = .error e := by
  constructor
  · intro h
    cases h with
    | untold hsource h =>
      rw [entryAt, if_neg hsource, h]
      rfl
    | garbled hscript hfile hbytes h =>
      rw [entryAt_of_file (by simp [hscript]) hfile hbytes, shown_eq_error_iff, lines_eq_error_iff]
      exact ⟨hscript, .inl (textOf_eq_error_iff.2 ⟨_, h, rfl⟩)⟩
    | tooDeep hscript hfile hbytes htext h =>
      rw [entryAt_of_file (by simp [hscript]) hfile hbytes, shown_eq_error_iff, lines_eq_error_iff]
      exact ⟨hscript, .inr ⟨_, htext, outline_eq_error_iff.2 ⟨_, h, rfl⟩⟩⟩
  · intro h
    have hsource : language? path ≠ none := by
      intro hnone
      rw [entryAt, if_pos hnone] at h
      cases h
    rcases isFile_cases s path with ⟨e', hfile⟩ | ⟨hfile, f, hbytes⟩ | ⟨bytes, hfile, hbytes⟩
    · rw [entryAt, if_neg hsource, hfile] at h
      cases h
      exact .untold hsource hfile
    · rw [entryAt, if_neg hsource, hfile, hbytes] at h
      cases h
    · rw [entryAt_of_file hsource hfile hbytes, shown_eq_error_iff, lines_eq_error_iff] at h
      rcases h with ⟨hscript, htext | ⟨text, htext, houtline⟩⟩
      · obtain ⟨fault, hfault, rfl⟩ := textOf_eq_error_iff.1 htext
        exact .garbled hscript hfile hbytes hfault
      · obtain ⟨fault, hfault, rfl⟩ := outline_eq_error_iff.1 houtline
        exact .tooDeep hscript hfile hbytes htext hfault

theorem language?_of_spoils (h : Spoils s path e) : language? path ≠ none := by
  intro hnone
  rw [spoils_iff, entryAt, if_pos hnone] at h
  cases h

theorem entryAt_of_not_spoils (h : ∀ e, ¬Spoils s path e) :
    (entryAt s path).toOption.join = (s.files.bytes path).toOption.bind ((Tools.of s).shown? path) := by
  by_cases hsource : language? path = none
  · have hshown (bytes : ByteArray) : (Tools.of s).shown? path bytes = none := by
      rw [Tools.shown?, Tools.shown, Tools.lines, hsource]
      rfl
    rw [entryAt, if_pos hsource]
    cases (s.files.bytes path).toOption with
    | none => rfl
    | some bytes => exact (hshown bytes).symm
  rcases isFile_cases s path with ⟨e, hfile⟩ | ⟨hfile, f, hbytes⟩ | ⟨bytes, hfile, hbytes⟩
  · exact absurd (.untold hsource hfile) (h e)
  · rw [entryAt, if_neg hsource, hfile, hbytes]
    rfl
  · rw [entryAt_of_file hsource hfile hbytes, hbytes]
    rfl

theorem failureAt?_eq_none_iff : failureAt? s path = none ↔ ∀ e, ¬Spoils s path e := by
  simp only [Option.eq_none_iff_forall_ne_some, spoils_iff, ne_eq, failureAt?_eq_some_iff]

theorem ending?_eq_none_iff {paths : List String} :
    ending? s paths = none ↔ ∀ p ∈ paths, ∀ e, ¬Spoils s p e := by
  simp only [ending?, List.findSome?_eq_none_iff, failureAt?_eq_none_iff]
  constructor
  · intro h p hp e hspoils
    exact h p (mem_visited.2 ⟨hp, language?_of_spoils hspoils⟩) e hspoils
  · intro h p hp
    exact h p (mem_visited.1 hp).1

theorem outlined_eq_error_iff {paths : List String} : outlined s paths = .error e ↔ ending? s paths = some e := by
  unfold outlined
  cases ending? s paths <;> simp

def overlongChars : List Char := List.replicate 64 '𝕏' ++ ['.', 'p', 'y']

/-- A name of a script that no directory can hold. -/
def overlongName : String := String.ofList overlongChars

theorem fits_overlongName : FileTree.fits overlongName = false := by decide +kernel

end IssuePlanner.Outline
