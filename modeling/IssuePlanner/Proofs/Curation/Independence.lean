import IssuePlanner.Proofs.Model.Independence
import IssuePlanner.Proofs.Server.Frame

/-! What a curation depends on. It takes its degree of detail from the session before it looks at its order, and apart
from that it does the same on sessions that are alike (`agree_curate`). Asked for symbols it gives up before anything is
sent or written, and for no other reason does it fail in that way (`gives_curate`). -/

namespace IssuePlanner.Curation

open IssuePlanner.Action Model

variable {α : Type} {x y : Option String} {c c' : Bool} {s : Session} {o : Order}

inductive Detail where
  | symbols
  | contents
  | names
  deriving DecidableEq

/-- The detail that a mode stands for; everything but two names means the names of the files. -/
def detailOf (mode : String) : Detail :=
  if mode = "lsp" then .symbols else if mode = "full" then .contents else .names

theorem overview_congr {mode mode' : String} (h : detailOf mode = detailOf mode') (paths : List String) :
    overview mode paths = overview mode' paths := by
  unfold detailOf at h
  unfold overview
  split_ifs at h with hlsp hlsp' hfull' hfull
  all_goals simp_all

/-! ### Two curations side by side -/

theorem agree_survey (o : Order) : Agree x y c c (survey o) (survey o) := by
  refine (agree_info _).bind fun _ => .get_bind fun s t h => ?_
  rw [h.read Session.files fun _ => rfl]
  refine (agree_info _).bind fun _ => (agree_info _).bind fun _ => ?_
  have hlast (message : String) (p : List String × List String) :
      Agree x y c c (info message >>= fun _ => pure p) (info message >>= fun _ => pure p) :=
    (agree_info _).bind fun _ => .pure _
  exact .ite ((agree_info _).bind fun _ => hlast _ _) (hlast _ _)

/-- The mode comes from the session, and from the order only if the session has none. -/
theorem agree_reasoningOf_bind {o o' : Order} {k k' : String → Action α}
    (h : Agree x y c c' (k (x.getD o.reasoning)) (k' (y.getD o'.reasoning))) :
    Agree x y c c' (reasoningOf o >>= k) (reasoningOf o' >>= k') := by
  simp only [reasoningOf, bind_assoc, pure_bind]
  refine .get_bind fun s t hst => ?_
  have hattended : t.attended = true := (hst.read Session.attended fun _ => rfl) ▸ hst.attended
  rw [if_pos hst.attended, if_pos hattended, hst.left, hst.right]
  exact h

theorem agree_overview (mode : String) (paths : List String) :
    Agree x y c c (overview mode paths) (overview mode paths) := by
  unfold overview
  split
  · exact (agree_info _).bind fun _ => .throw _
  · refine (agree_info _).bind fun _ => .get_bind fun s t h => ?_
    rw [h.read (contentsOf · paths) fun _ => rfl]
    exact (Agree.ofExcept _).bind fun _ => .pure _
  · exact (agree_info _).bind fun _ => .pure _

theorem agree_chooseOrAll (o : Order) (shown : String) (dirs : List String) :
    Agree x y true false (chooseOrAll o shown dirs) (chooseOrAll o shown dirs) := by
  have hchoose : Agree x y true false (choose o shown dirs) (choose o shown dirs) := by
    refine .tryCatch ?_ fun _ => (agree_log _ _).bind fun _ => .pure _
    exact (agree_call _).bind fun _ => (agree_info _).bind fun _ => .pure _
  refine hchoose.bind fun _ => ?_
  split
  · exact (agree_log _ _).bind fun _ => .pure _
  · exact .pure _

theorem agree_writeFile (path content : String) : Agree x y c c (writeFile path content) (writeFile path content) := by
  have hfiles (files : FileTree) : Incidental fun s => { s with files := files } :=
    ⟨⟨fun p => ({ p.1 with files := files }, p.2), fun _ => rfl⟩, fun _ => rfl, fun _ => rfl, fun _ => rfl⟩
  refine .get_bind fun s t h => ?_
  rw [h.read Session.files fun _ => rfl]
  split
  · exact .set ((hfiles _).alike h)
  · rw [h.read Session.root fun _ => rfl]
    exact .throw _

theorem agree_curateOrFail (h : o.disableSearch = false) {mode : String}
    (hdetail : detailOf (x.getD o.reasoning) = detailOf (y.getD mode)) :
    Agree x y true false (curateOrFail o) (curateOrFail { o with reasoning := mode }) := by
  refine .get_bind fun s t _ => agree_searchSetting_bind fun on on' => ?_
  rw [h, Bool.false_and, Bool.false_and]
  refine (agree_survey o).bind_loose ?_
  rintro ⟨paths, dirs⟩
  refine agree_reasoningOf_bind ?_
  rw [overview_congr hdetail]
  refine (agree_overview _ _).bind_loose fun shown => (agree_info _).bind_loose fun _ => .get_bind fun s t hst => ?_
  rw [hst.isNone_manager]
  refine .ite (.weaken (.throw_bind _ _ _) fun hc => by cases hc) ?_
  refine (agree_info _).bind_loose fun _ => (agree_chooseOrAll _ _ _).bind fun picked => ?_
  refine (agree_info _).bind fun _ => (agree_writeFile _ _).bind fun _ => .get_bind fun s t hst => ?_
  rw [hst.read Session.root fun _ => rfl]
  exact (agree_info _).bind fun _ => (agree_info _).bind fun _ => .pure _

theorem agree_curate (h : o.disableSearch = false) {mode : String}
    (hdetail : detailOf (x.getD o.reasoning) = detailOf (y.getD mode)) :
    Agree x y true false (curate o) (curate { o with reasoning := mode }) :=
  (agree_curateOrFail h hdetail).tryCatch fun _ => (agree_log _ _).bind fun _ => .throw _

/-! ### What a curation tells the client -/

def Detail.message : Detail → String
  | symbols => "Using LSP mode for codebase analysis"
  | contents => "Using full mode with file contents for codebase analysis"
  | names => "Using file structure mode for codebase analysis"

theorem Detail.message_injective {d d' : Detail} (h : d.message = d'.message) : d = d' := by
  revert h
  cases d <;> cases d' <;> decide

/-- The mode of a curation with an order, where a client listens. -/
def Order.modeOn (o : Order) (s : Session) : String := s.settings.reasoning.getD o.reasoning

/-- What the mode of a curation is taken from, what is stored and what was sent. -/
def ledger (s : Session) : Bool × Option String × FileTree × List Sent :=
  (s.attended, s.settings.reasoning, s.files, requests s.trace)

theorem logless_ledger : Logless ledger := fun _ _ _ => rfl

theorem perform_reasoningOf (hs : s.attended = true) (o : Order) : perform (reasoningOf o) s = (.ok (o.modeOn s), s) := by
  simp only [reasoningOf, perform_bind, perform_get, andThen_ok, hs, if_true]
  rfl

theorem trace_overview (hs : s.attended = true) (mode : String) (paths : List String) :
    (perform (overview mode paths) s).2.trace = .log "info" (detailOf mode).message :: s.trace := by
  have hinfo (message : String) : perform (info message) s = (.ok (), { s with trace := .log "info" message :: s.trace }) := by
    simp only [info, log, perform_bind, perform_get, andThen_ok, hs, if_true, perform_record]
  unfold overview detailOf
  split
  · rw [perform_bind, hinfo]
    rfl
  · rw [perform_bind, hinfo, andThen_ok, perform_bind, perform_get, andThen_ok, perform_bind, perform_ofExcept]
    cases contentsOf _ paths <;> rfl
  · next hlsp hfull =>
    rw [if_neg hlsp, if_neg hfull, perform_bind, hinfo]
    rfl

theorem grows_chooseOrAll (o : Order) (shown : String) (dirs : List String) : Grows (chooseOrAll o shown dirs) := by
  have hchoose : Grows (choose o shown dirs) := by
    refine .tryCatch ?_ fun _ => (grows_log _ _).bind fun _ => .pure _
    exact (grows_call _).bind fun _ => (grows_info _).bind fun _ => .pure _
  refine hchoose.bind fun _ => ?_
  split
  · exact (grows_log _ _).bind fun _ => .pure _
  · exact .pure _

theorem grows_writeFile (path content : String) : Grows (writeFile path content) := by
  refine .of_preserves fun s => ?_
  simp only [writeFile, perform_bind, perform_get, andThen_ok]
  split <;> rfl

theorem tells_detail (h : o.disableSearch = false) (hs : s.attended = true) :
    .log "info" (detailOf (o.modeOn s)).message :: (perform (survey o) s).2.trace <:+ (perform (curate o) s).2.trace := by
  obtain ⟨⟨paths, dirs⟩, t, hrun, ht⟩ := sets_survey logless_ledger o s
  have hattended : t.attended = true := (congrArg Prod.fst ht).trans hs
  have hmode : o.modeOn t = o.modeOn s := congrArg (fun l => l.2.1.getD o.reasoning) ht
  have htold := trace_overview hattended (o.modeOn s) paths
  rw [hrun, ← htold]
  -- everything behind the message only adds to the trace
  refine Ends.snd (.tryCatch ?_ fun _ _ hu => Grows.ends ((grows_log _ _).bind fun _ => .throw _) hu)
  refine .bind_of_ok rfl (.bind_of_ok rfl ?_)
  rw [h, Bool.false_and]
  refine .bind_of_ok hrun (.bind_of_ok (perform_reasoningOf hattended o) ?_)
  rw [hmode]
  refine (Ends.of_snd List.suffix_rfl).bind fun _ u hu => Grows.ends ?_ hu
  refine (grows_info _).bind fun _ => Grows.get.bind fun _ => .ite (.of_preserves (.throw_bind _ _)) ?_
  refine (grows_info _).bind fun _ => (grows_chooseOrAll _ _ _).bind fun _ => (grows_info _).bind fun _ => ?_
  refine (grows_writeFile _ _).bind fun _ => Grows.get.bind fun _ => (grows_info _).bind fun _ => ?_
  exact (grows_info _).bind fun _ => .pure _

/-! ### Curations that ask for symbols -/

def noSymbols : Failure := .missingArgument "get_lsp_snapshot" "file_paths"

/-- A run that started from `s` has failed in the one way exactly if its mode asks for symbols, and then nothing was sent
or stored. -/
structure Declined (why : Failure) (mode : String) (s : Session) (e : Failure) (t : Session) : Prop where
  iff : e = why ↔ mode = "lsp"
  untouched : mode = "lsp" → ledger t = ledger s

theorem Declined.step {why e : Failure} {mode : String} {t t' : Session} (h : Declined why mode s e t)
    (ht : ledger t' = ledger t) : Declined why mode s e t' :=
  ⟨h.iff, fun hmode => ht.trans (h.untouched hmode)⟩

theorem Declined.during {why e : Failure} {mode : String} {t : Session} (h : Declined why mode s e t) (stage : Stage) :
    Declined (.during stage why) mode s (.during stage e) t := by
  refine ⟨?_, h.untouched⟩
  rw [Failure.during.injEq, eq_self_iff_true, true_and, h.iff]

theorem exists_of_filterAuxM {ε : Type} {p : α → Except ε Bool} {e : ε} {xs acc : List α}
    (h : xs.filterAuxM p acc = .error e) : ∃ x ∈ xs, p x = .error e := by
  induction xs generalizing acc with
  | nil => cases h
  | cons x xs ih =>
    replace h : (p x >>= fun b => xs.filterAuxM p (cond b (x :: acc) acc)) = .error e := h
    cases hx : p x with
    | error e' =>
      rw [hx] at h
      cases h
      exact ⟨x, List.mem_cons_self, hx⟩
    | ok b =>
      rw [hx] at h
      obtain ⟨y, hy, hfault⟩ := ih h
      exact ⟨y, List.mem_cons_of_mem x hy, hfault⟩

/-- The contents of files can only be missed because the system does not tell which paths are files. -/
theorem exists_of_contentsOf {e : Failure} {paths : List String} (h : contentsOf s paths = .error e) :
    ∃ path ∈ paths, s.isFile path = .error e := by
  unfold contentsOf List.filterM at h
  cases haux : paths.filterAuxM s.isFile [] with
  | error e' =>
    rw [haux] at h
    cases h
    exact exists_of_filterAuxM haux
  | ok found =>
    rw [haux] at h
    cases h

theorem isFile_ne_noSymbols (s : Session) (path : String) : s.isFile path ≠ .error noSymbols := by
  unfold Session.isFile
  split
  · exact fun h => Failure.noConfusion (Except.error.inj h)
  · exact nofun
  · exact nofun

/-- Without symbols the files may be told apart or not, but it is not for want of symbols. -/
theorem gives_overview_ne {mode : String} (h : mode ≠ "lsp") (paths : List String) (s : Session) :
    Gives (overview mode paths) s (fun _ _ => True) fun e _ => e ≠ noSymbols := by
  unfold overview
  split
  · exact absurd rfl h
  · refine .bind_sets (succeeds_info _) fun _ t _ => .bind_of_ok rfl ?_
    cases hcontents : contentsOf t paths with
    | ok contents => trivial
    | error e =>
      obtain ⟨path, -, hfault⟩ := exists_of_contentsOf hcontents
      rintro rfl
      exact isFile_ne_noSymbols t path hfault
  · exact .bind_sets (succeeds_info _) fun _ _ _ => trivial

/-- A model that fails makes no difference to whether there is a choice. -/
theorem succeeds_chooseOrAll (o : Order) (shown : String) (dirs : List String) : Succeeds (chooseOrAll o shown dirs) := by
  refine (succeeds_tryCatch fun _ => (succeeds_log _ _).bind_pure _).bind fun _ => ?_
  split
  · exact (succeeds_log _ _).bind_pure _
  · exact .pure _

theorem gives_writeFile_ne (path content : String) (s : Session) :
    Gives (writeFile path content) s (fun _ _ => True) fun e _ => e ≠ noSymbols := by
  unfold Gives
  simp only [writeFile, perform_bind, perform_get, andThen_ok]
  split
  · trivial
  · rename_i heq
    split at heq
    · cases heq
    · cases heq
      exact Failure.noConfusion

/-- A curation fails for want of symbols exactly if it asks for them, and then nothing is sent or written. -/
theorem gives_curateOrFail (h : o.disableSearch = false) (hs : s.attended = true) :
    Gives (curateOrFail o) s (fun _ _ => o.modeOn s ≠ "lsp") (Declined noSymbols (o.modeOn s) s) := by
  refine .bind_of_ok rfl (.bind_of_ok rfl ?_)
  rw [h, Bool.false_and]
  refine .bind_sets (sets_survey logless_ledger o) ?_
  rintro ⟨paths, dirs⟩ t ht
  have hattended : t.attended = true := (congrArg Prod.fst ht).trans hs
  have hmode : o.modeOn t = o.modeOn s := congrArg (fun l => l.2.1.getD o.reasoning) ht
  refine .bind_of_ok (perform_reasoningOf hattended o) ?_
  rw [hmode]
  by_cases hlsp : o.modeOn s = "lsp"
  · rw [hlsp]
    obtain ⟨u, t', hrun, ht'⟩ := logless_ledger.sets_info "Using LSP mode for codebase analysis" t
    have hoverview : perform (overview "lsp" paths) t = (.error noSymbols, t') := by
      show perform (info _ >>= fun _ => throw noSymbols) t = _
      rw [perform_bind, hrun]
      rfl
    exact .bind_of_error hoverview ⟨iff_of_true rfl rfl, fun _ => ht'.trans ht⟩
  · -- from here on there are other failures, but none for want of symbols
    refine Gives.mono (Q := fun e _ => e ≠ noSymbols) (P := fun _ _ => True) ?_ (fun _ _ _ => hlsp)
      fun e _ he => ⟨iff_of_false he hlsp, fun hmode => absurd hmode hlsp⟩
    refine (gives_overview_ne hlsp paths t).bind fun shown _ _ => .bind_sets (succeeds_info _) fun _ t _ => ?_
    refine .bind_of_ok rfl ?_
    dsimp only
    split
    · refine .bind_of_error rfl ?_
      exact Failure.noConfusion
    refine .bind_sets (succeeds_info _) fun _ _ _ => .bind_sets (succeeds_chooseOrAll _ _ _) fun picked _ _ => ?_
    refine .bind_sets (succeeds_info _) fun _ t _ => (gives_writeFile_ne _ _ t).bind fun _ t _ => .bind_of_ok rfl ?_
    exact .bind_sets (succeeds_info _) fun _ _ _ => .bind_sets (succeeds_info _) fun _ _ _ => trivial

theorem gives_curate (h : o.disableSearch = false) (hs : s.attended = true) :
    Gives (curate o) s (fun _ _ => o.modeOn s ≠ "lsp") (Declined (.during .curate noSymbols) (o.modeOn s) s) := by
  refine (gives_curateOrFail h hs).tryCatch fun e t hdeclined => ?_
  exact .bind_sets (logless_ledger.sets_log _ _) fun _ t' ht' => (hdeclined.during _).step ht'

end IssuePlanner.Curation
