import IssuePlanner.Proofs.Path.Glob
import IssuePlanner.Proofs.Snapshot.Taking
import IssuePlanner.Snapshot.Tree

/-! Which paths the patterns of files that are never shown do hide. A pattern without a slash is meant for a name, but
it is compared with the whole path. So a pattern that starts with a star hides its names in every directory, and any
other one hides them below a directory only if its opening happens to fit the start of the path (`fits_iff_reaches`).
The secret `.env` is hidden at the root and shown below a directory. -/

namespace IssuePlanner.Snapshot

open IssuePlanner.Action IssuePlanner.Path

variable {s : Session} {report : String → Action Unit} {tracked untracked pattern path : String}

/-- A path ends in its last name, and is that name if it has no slash. -/
theorem exists_eq_append_name (path : String) :
    ∃ front, path.toList = front ++ (Tree.name path).toList ∧ (front = [] ↔ '/' ∉ path.toList) := by
  obtain ⟨init, last, front, hsplit, happend, -, hfront⟩ := Text.exists_splitOn_eq_concat '/' path.toList
  have hname : Tree.name path = String.ofList last := by
    simp [Tree.name, Tree.place, Text.pieces, hsplit]
  exact ⟨front, by rw [hname, String.toList_ofList, happend], hfront⟩

theorem fits_of_no_slash (h : '/' ∉ pattern.toList) : fits path pattern = globMatches path pattern := by
  have hends : Text.ends pattern "/" = false := by
    rw [Text.ends, Text.endsWith, Bool.eq_false_iff]
    intro hsuffix
    exact h ((List.isSuffixOf_iff_suffix.1 hsuffix).subset (by simp))
  rw [fits, hends]
  rfl

/-- A pattern for names reaches a path that ends in such a name: the path has no directory, or the pattern has a star
and what stands before it fits the start of the path. -/
def Reaches (pattern path : String) : Prop :=
  let ps := Glob.pieces pattern.toList
  '/' ∉ path.toList ∨
    .star ∈ ps ∧ Glob.Matches (Glob.opening ps) (path.toList.take (Glob.opening ps).length)

theorem fits_iff_reaches (hslash : '/' ∉ pattern.toList) (hname : globMatches (Tree.name path) pattern = true) :
    fits path pattern = true ↔ Reaches pattern path := by
  obtain ⟨front, happend, hfront⟩ := exists_eq_append_name path
  rw [fits_of_no_slash hslash, globMatches_iff, Reaches, ← hfront, happend]
  exact Glob.matches_append_iff_of_matches (globMatches_iff.1 hname)

theorem reaches_of_begins_star (h : Text.begins pattern "*" = true) : Reaches pattern path := by
  obtain ⟨rest, hrest⟩ := List.isPrefixOf_iff_prefix.1 h
  have hpieces : Glob.pieces pattern.toList = .star :: Glob.piecesFrom rest.length rest := by
    rw [← hrest]
    rfl
  refine .inr ?_
  rw [hpieces]
  exact ⟨List.mem_cons_self, .nil⟩

theorem mem_readContents {files : FileTree} {paths : List String} {text : String} :
    (path, text) ∈ (readContents files paths).1 ↔ path ∈ paths ∧ readContent files path = .read text := by
  simp only [readContents, List.mem_filterMap, List.mem_map]
  constructor
  · rintro ⟨_, ⟨p, hp, rfl⟩, hread⟩
    dsimp only at hread
    split at hread
    · next content hcontent =>
      cases hread
      exact ⟨hp, hcontent⟩
    · cases hread
  · rintro ⟨hp, hread⟩
    exact ⟨_, ⟨path, hp, rfl⟩, by rw [hread]⟩

/-- A snapshot hides a path whose last name fits a standing pattern if the pattern reaches the path: always at the root,
and in every directory if the pattern starts with a star. A pattern that does not reach the path does not fit it, and
whether the path is shown is left to the other patterns and the rules. -/
theorem take_hides_reached {context ignore : Option String} (hreport : ∀ m, Passive (report m))
    (hlists : Lists s tracked untracked) (hgit : ∃ text, HasRules s ".gitignore" text)
    (hignore : HasRules s ".yellhornignore" ignore) (hcontext : HasRules s ".yellhorncontext" context)
    (justPaths : Bool) :
    ∃ snapshot s', perform (take report justPaths) s = (.ok snapshot, s') ∧
      (∀ f text, (f, text) ∈ snapshot.contents ↔
        justPaths = false ∧ f ∈ snapshot.paths ∧ readContent s.files f = .read text) ∧
      ∀ f, ∀ pattern ∈ alwaysIgnoredPatterns, '/' ∉ pattern.toList →
        globMatches (Tree.name f) pattern = true →
        (fits f pattern = true ↔ Reaches pattern f) ∧
        (Reaches pattern f → f ∉ snapshot.paths ∧ ∀ text, (f, text) ∉ snapshot.contents) ∧
        ('/' ∉ f.toList ∨ Text.begins pattern "*" = true → Reaches pattern f) ∧
        (f ∈ snapshot.paths ↔ f ≠ "" ∧ f ∈ listedNames tracked untracked ∧ Chosen context ignore f) := by
  obtain ⟨s', hs', -⟩ := perform_take hreport hlists justPaths
  rw [rulesOf_of_hasRules hgit hignore hcontext] at hs'
  have hselects := select_selects context ignore (listedNames tracked untracked)
  refine ⟨_, s', hs', fun f text => ?_, fun f pattern hpattern hslash hname => ?_⟩
  · cases justPaths with
    | true => simp [ofPaths]
    | false => simpa [ofPaths] using mem_readContents
  · have hreach := fits_iff_reaches hslash hname
    have hhidden : Reaches pattern f → f ∉ (Rules.ofTexts context ignore).select (listedNames tracked untracked) := by
      intro h hmem
      have hfits := ((hselects.mem_iff f).1 hmem).2.2.1 pattern hpattern
      rw [hreach.2 h] at hfits
      cases hfits
    refine ⟨hreach, fun h => ⟨hhidden h, fun text hmem => ?_⟩, ?_, hselects.mem_iff f⟩
    · cases justPaths with
      | true => simp [ofPaths] at hmem
      | false => exact hhidden h (mem_readContents.1 hmem).1
    · rintro (hroot | hstar)
      · exact .inl hroot
      · exact reaches_of_begins_star hstar

def nestedSecretSession : Session :=
  { files := { nodes := [(["config", ".env"], .file "SECRET=1\n".toUTF8)] }
    git := [{ args := ["ls-files", "--others"] }, { args := ["ls-files"], stdout := "config/.env\n".toUTF8 }] }

theorem not_plainFits_empty (path : String) : ¬ PlainFits "" path := by
  rintro ⟨l, ⟨⟨line, hline, rfl⟩, hne, -⟩, -⟩
  have hpieces : Text.pieces '\n' "" = [""] := by decide
  rw [hpieces, List.mem_singleton] at hline
  subst hline
  exact hne (by decide)

/-- The name of the secret is among the standing patterns, and its path and content are shown. -/
theorem take_shows_nested_secret :
    ∃ snapshot s', perform (take print false) nestedSecretSession = (.ok snapshot, s') ∧
      ".env" ∈ alwaysIgnoredPatterns ∧ globMatches (Tree.name "config/.env") ".env" = true ∧
      ¬ Reaches ".env" "config/.env" ∧ "config/.env" ∈ snapshot.paths ∧
      ("config/.env", "SECRET=1\n") ∈ snapshot.contents := by
  have hlists : Lists nestedSecretSession "config/.env\n" "" :=
    ⟨_, _, ⟨_, rfl, rfl, rfl, by decide +kernel⟩, ⟨_, rfl, rfl, rfl, by decide +kernel⟩⟩
  obtain ⟨snapshot, s', hs', hcontents, hnamed⟩ := take_hides_reached passive_print hlists ⟨none, rfl⟩
    (show HasRules _ _ none from rfl) (show HasRules _ _ none from rfl) false
  have hpattern : ".env" ∈ alwaysIgnoredPatterns := by decide +kernel
  have hname : globMatches (Tree.name "config/.env") ".env" = true := by decide +kernel
  obtain ⟨hreach, -, -, hmem⟩ := hnamed "config/.env" ".env" hpattern (by decide +kernel) hname
  have hignored : isAlwaysIgnored "config/.env" = false := by decide +kernel
  have hshown : "config/.env" ∈ snapshot.paths :=
    hmem.2 ⟨by decide, by decide +kernel, isAlwaysIgnored_eq_false.1 hignored, .inr (not_plainFits_empty _)⟩
  refine ⟨snapshot, s', hs', hpattern, hname, fun h => ?_, hshown, (hcontents _ _).2 ⟨rfl, hshown, ?_⟩⟩
  · have hfits := isAlwaysIgnored_eq_false.1 hignored ".env" hpattern
    rw [hreach.2 h] at hfits
    cases hfits
  · have htext : String.ofList (Text.unifyNewlines
        (Text.Utf8.decodeLossy "SECRET=1\n".toUTF8).toList) = "SECRET=1\n" := by decide +kernel
    exact congrArg Content.read htext

end IssuePlanner.Snapshot
