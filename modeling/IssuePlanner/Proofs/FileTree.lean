import IssuePlanner.FileTree
import IssuePlanner.Proofs.Text.Lines
import IssuePlanner.Proofs.Text.Utf8
import Mathlib.Tactic.Common

/-! Writing a file. The file is where the path led, and every other place is as it was (`writes_of_write`). So a path
leads where it led before, and reading gives what was written (`text_write`). -/

namespace IssuePlanner.FileTree

variable {t t' : FileTree} {path : String} {p q : List String} {b : ByteArray}

def listed? (t : FileTree) (q : List String) : Option FileNode := (t.nodes.find? (·.1 == q)).map (·.2)

/-- Whether a tree lists something at a place or below it. -/
def reaches (t : FileTree) (q : List String) : Bool := t.nodes.any fun e => q.isPrefixOf e.1

theorem node?_eq (t : FileTree) (hq : q ≠ []) :
    t.node? q = (t.listed? q).or (if t.reaches q then some .directory else none) := by
  rw [node?, if_neg (by simpa using hq), listed?]
  cases t.nodes.find? (·.1 == q) <;> rfl

structure Writes (t : FileTree) (p : List String) (b : ByteArray) (t' : FileTree) : Prop where
  file : t'.node? p = some (.file b)
  others : ∀ q, q ≠ p → t'.node? q = t.node? q
  /-- There was no directory at the place. -/
  free : t.isDirectory p = false

/-- An entry with the file in the place of what it listed. -/
def filed (p : List String) (b : ByteArray) (e : List String × FileNode) : List String × FileNode :=
  if e.1 == p then (e.1, .file b) else e

theorem fst_filed (p : List String) (b : ByteArray) (e : List String × FileNode) : (filed p b e).1 = e.1 := by
  unfold filed
  split <;> rfl

theorem reaches_map_filed (t : FileTree) (p : List String) (b : ByteArray) (q : List String) :
    reaches ⟨t.nodes.map (filed p b)⟩ q = t.reaches q := by
  simp only [reaches, List.any_map, Function.comp_def, fst_filed]

theorem listed?_map_filed (t : FileTree) (p : List String) (b : ByteArray) (q : List String) :
    listed? ⟨t.nodes.map (filed p b)⟩ q = (t.listed? q).map fun node => if q = p then .file b else node := by
  have hkey : ((·.1 == q) ∘ filed p b) = fun e => e.1 == q := by
    funext e
    simp only [Function.comp_apply, fst_filed]
  rw [listed?, listed?, List.find?_map, hkey, Option.map_map, Option.map_map]
  cases hfind : t.nodes.find? (·.1 == q) with
  | none => rfl
  | some e =>
    have hq : e.1 = q := by simpa using List.find?_some hfind
    simp only [Option.map_some, Function.comp_apply, filed, hq, beq_iff_eq]
    split <;> rfl

theorem writes_replace (hsome : (t.node? p).isSome) (hfree : t.isDirectory p = false) :
    Writes t p b ⟨t.nodes.map (filed p b)⟩ := by
  have hne : p ≠ [] := by
    rintro rfl
    cases hfree
  refine ⟨?_, fun q hq => ?_, hfree⟩
  · -- what is listed only as a directory around other entries is no place for a file
    cases hlisted : t.listed? p with
    | some node => rw [node?_eq _ hne, listed?_map_filed, hlisted]; simp
    | none =>
      rw [isDirectory, node?_eq _ hne, hlisted] at hfree
      rw [node?_eq _ hne, hlisted] at hsome
      cases hreaches : t.reaches p with
      | true => simp [hreaches] at hfree
      | false => simp [hreaches] at hsome
  · by_cases hnil : q = []
    · rw [hnil]
      rfl
    · rw [node?_eq _ hnil, node?_eq _ hnil, listed?_map_filed, reaches_map_filed]
      simp [hq]

theorem listed?_append (t : FileTree) (p : List String) (b : ByteArray) (q : List String) :
    listed? ⟨t.nodes ++ [(p, .file b)]⟩ q = (t.listed? q).or (if p = q then some (.file b) else none) := by
  rw [listed?, listed?, List.find?_append]
  cases t.nodes.find? (·.1 == q) with
  | some e => rfl
  | none =>
    by_cases hp : p = q
    · simp [hp]
    · simp [hp]

theorem reaches_append (t : FileTree) (p : List String) (b : ByteArray) (q : List String) :
    reaches ⟨t.nodes ++ [(p, .file b)]⟩ q = (t.reaches q || q.isPrefixOf p) := by
  simp [reaches]

theorem reaches_mono (h : t.reaches q = true) (hp : p <+: q) : t.reaches p = true := by
  obtain ⟨e, he, hq⟩ := List.any_eq_true.1 h
  exact List.any_eq_true.2 ⟨e, he, List.isPrefixOf_iff_prefix.2 (hp.trans (List.isPrefixOf_iff_prefix.1 hq))⟩

theorem reaches_of_node? (hq : q ≠ []) (h : (t.node? q).isSome) : t.reaches q = true := by
  rw [node?_eq _ hq] at h
  cases hlisted : t.listed? q with
  | none =>
    by_contra hreaches
    simp [hlisted, hreaches] at h
  | some node =>
    obtain ⟨e, he, -⟩ := Option.map_eq_some_iff.1 hlisted
    have hkey : e.1 = q := by simpa using List.find?_some he
    refine List.any_eq_true.2 ⟨e, List.mem_of_find?_eq_some he, ?_⟩
    rw [hkey]
    exact List.isPrefixOf_iff_prefix.2 (List.prefix_refl q)

/-- The new file is the last entry. Its directory was there, so no other directory comes with it. -/
theorem writes_add (hnode : t.node? p = none) (hparent : t.isDirectory p.dropLast = true) :
    Writes t p b ⟨t.nodes ++ [(p, .file b)]⟩ := by
  have hne : p ≠ [] := by
    rintro rfl
    cases hnode
  refine ⟨?_, fun q hq => ?_, by rw [isDirectory, hnode]⟩
  · rw [node?_eq _ hne, Option.or_eq_none_iff] at hnode
    rw [node?_eq _ hne, listed?_append, hnode.1]
    simp
  · by_cases hnil : q = []
    · rw [hnil]
      rfl
    · rw [node?_eq _ hnil, node?_eq _ hnil, listed?_append, reaches_append, if_neg (Ne.symm hq), Option.or_none]
      cases hprefix : q.isPrefixOf p with
      | false => rw [Bool.or_false]
      | true =>
        obtain ⟨dir, name, rfl⟩ := (List.eq_nil_or_concat p).resolve_left hne
        rw [List.concat_eq_append] at hq hprefix hparent
        have hdir : q <+: dir :=
          (List.prefix_concat_iff.1 (List.isPrefixOf_iff_prefix.1 hprefix)).resolve_left hq
        have hsome : (t.node? dir).isSome := by
          rw [List.dropLast_concat, isDirectory] at hparent
          cases hn : t.node? dir with
          | none => simp [hn] at hparent
          | some node => rfl
        rw [reaches_mono (reaches_of_node? (fun h => hnil (List.prefix_nil.1 (h ▸ hdir))) hsome) hdir, Bool.true_or]

theorem writes_of_write (h : t.write path b = .ok t') : ∃ p, t.resolve path = some p ∧ Writes t p b t' := by
  unfold write at h
  cases hp : t.resolve path with
  | none => simp [hp] at h
  | some p =>
    refine ⟨p, rfl, ?_⟩
    simp only [hp] at h
    split at h
    · cases h
    · next node hdir hnode =>
      cases h
      refine writes_replace (by simp [hnode]) ?_
      rw [isDirectory, hnode]
      cases node with
      | directory => exact (hdir rfl).elim
      | file => rfl
      | special => rfl
    · next hnode =>
      split_ifs at h with hparent
      cases h
      exact writes_add hnode hparent

namespace Writes

theorem isDirectory_eq (h : Writes t p b t') (q : List String) : t'.isDirectory q = t.isDirectory q := by
  by_cases hq : q = p
  · rw [hq, h.free, isDirectory, h.file]
  · rw [isDirectory, h.others q hq, isDirectory]

theorem resolveFrom_eq (h : Writes t p b t') (rest here : List String) :
    t'.resolveFrom here rest = t.resolveFrom here rest := by
  induction rest generalizing here with
  | nil => rfl
  | cons n rest ih => rw [resolveFrom, resolveFrom, h.isDirectory_eq, ih, ih]

theorem resolve_eq (h : Writes t p b t') (path : String) : t'.resolve path = t.resolve path := by
  rw [resolve, h.resolveFrom_eq, resolve]

theorem find?_eq (h : Writes t p b t') (hne : t.resolve path ≠ some p) : t'.find? path = t.find? path := by
  rw [find?, h.resolve_eq, find?]
  cases hq : t.resolve path with
  | none => rfl
  | some q => exact h.others q fun hqp => hne (hqp ▸ hq)

end Writes

theorem bytes_eq_ok_iff : t.bytes path = .ok b ↔ t.find? path = some (.file b) := by
  unfold bytes
  split
  · next h => rw [h, Except.ok.injEq, Option.some.injEq, FileNode.file.injEq]
  · next h => simp [h]
  · next h => simp [h]
  · next h => simp [h]

theorem bytes_write (h : t.write path b = .ok t') : t'.bytes path = .ok b := by
  obtain ⟨p, hp, hwrites⟩ := writes_of_write h
  rw [bytes_eq_ok_iff, find?, hwrites.resolve_eq, hp]
  exact hwrites.file

theorem text_write {content : String} (h : t.write path content.toUTF8 = .ok t') (hreturn : '\r' ∉ content.toList)
    (shown : String) : t'.text shown path = .ok content := by
  rw [text, bytes_write h]
  dsimp only
  rw [Text.Utf8.decode?_eq_ok_iff.2 rfl]
  dsimp only
  rw [Text.unifyNewlines_of_not_mem hreturn, String.ofList_toList]

theorem text_of_find?_eq {shown content : String} (h : t'.find? path = t.find? path)
    (htext : t.text shown path = .ok content) : t'.text shown path = .ok content := by
  unfold text at htext ⊢
  cases hbytes : t.bytes path with
  | error f => simp [hbytes] at htext
  | ok b =>
    have hbytes' : t'.bytes path = .ok b := by rw [bytes_eq_ok_iff, h, bytes_eq_ok_iff.1 hbytes]
    rw [hbytes']
    rw [hbytes] at htext
    exact htext

/-- Whether a path is a single name, and not too long for one. -/
def isName (path : String) : Bool := names path == [path] && path != ".." && !Text.begins path "/" && fits path

theorem resolve_of_isName (h : isName path = true) (t : FileTree) : t.resolve path = some [path] := by
  simp only [isName, Bool.and_eq_true, beq_iff_eq, bne_iff_ne, Bool.not_eq_true'] at h
  obtain ⟨⟨⟨hnames, hdots⟩, hroot⟩, hfits⟩ := h
  have hdir : t.isDirectory [] = true := rfl
  rw [resolve, hroot, hnames, if_neg (by decide), resolveFrom, hdir, hfits, if_neg (by decide),
    if_neg (by simpa using hdots)]
  rfl

theorem resolve_ne_of_isName {path' : String} (h : isName path = true) (h' : isName path' = true) (hne : path ≠ path')
    (t : FileTree) : t.resolve path ≠ t.resolve path' := by
  rw [resolve_of_isName h, resolve_of_isName h']
  simpa using hne

end IssuePlanner.FileTree
