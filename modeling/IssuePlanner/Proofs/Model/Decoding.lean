import IssuePlanner.Proofs.Data.Reading
import IssuePlanner.Proofs.Model.Braces
import IssuePlanner.Proofs.Server.Dispatch

/-! Data in a reply's text. OpenAI's text is read whole. Of Gemini's text only the first pair of braces is read that
holds at most one level of further ones. So the two give the same dictionary exactly if that part is read as the
dictionary the whole text is read as (`gemini_data_is_openai_data_iff`). -/

namespace IssuePlanner

/-! ### A number with too many digits is no reason to try again -/

/-- What has nothing in common with the middle of a text stands before it or after it. -/
theorem isInfix_of_isInfix_append {pat as ds bs : List Char} (hds : ds ≠ []) (hforeign : ∀ ch ∈ ds, ch ∉ pat)
    (h : pat <:+: as ++ (ds ++ bs)) : pat <:+: as ∨ pat <:+: bs := by
  obtain ⟨u, v, h⟩ := h
  rcases List.append_eq_append_iff.1 h with ⟨w, rfl, -⟩ | ⟨w, hu, hv⟩
  · exact .inl ⟨u, w, rfl⟩
  rcases List.append_eq_append_iff.1 hu with ⟨w', rfl, rfl⟩ | ⟨w', rfl, rfl⟩
  · -- What stands from the middle on in `pat` is the start of the middle, so nothing does.
    cases w with
    | nil => exact .inl ⟨u, [], by simp⟩
    | cons ch w =>
      obtain ⟨a, ds, rfl⟩ := List.exists_cons_of_ne_nil hds
      obtain rfl : a = ch := (List.cons.inj hv).1
      exact absurd (by simp) (hforeign a List.mem_cons_self)
  · rw [List.append_assoc] at hv
    rcases List.append_eq_append_iff.1 hv with ⟨z, rfl, rfl⟩ | ⟨z, rfl, hz⟩
    · exact .inr ⟨z, v, by simp⟩
    · cases z with
      | nil => exact .inr ⟨[], v, by simpa using hz⟩
      | cons ch z =>
        cases pat with
        | nil => exact .inl List.nil_infix
        | cons a pat =>
          obtain rfl : a = ch := (List.cons.inj hz).1
          exact absurd List.mem_cons_self (hforeign a (by simp))

theorem toLower_of_isDigit {ch : Char} (h : ch.isDigit = true) : ch.toLower = ch := by
  have hupper : ¬(ch.val ≥ 'A'.val ∧ ch.val ≤ 'Z'.val) := by
    simp only [Char.isDigit, Bool.and_eq_true, decide_eq_true_eq] at h
    rintro ⟨hA, -⟩
    exact absurd (UInt32.le_trans hA h.2) (by decide)
  exact dif_neg hupper

/-- A text around a number mentions no terms without digits that neither side of it mentions. -/
theorem mentions_natText {terms : List String} {before after : String} (n : Nat)
    (hdigits : (terms.all fun t => t.toList.all fun ch => !ch.isDigit) = true)
    (hbefore : mentions terms before = false) (hafter : mentions terms after = false) :
    mentions terms (before ++ Number.natText n ++ after) = false := by
  have hnumber : ∀ ch ∈ Number.digitsOf n, ch.isDigit = true := fun ch hch =>
    Nat.isDigit_of_mem_toDigits (by decide) (Nat.le_refl 10) hch
  have hlower : (before ++ Number.natText n ++ after).toList.map Char.toLower =
      before.toList.map Char.toLower ++ (Number.digitsOf n ++ after.toList.map Char.toLower) := by
    have hsame : (Number.digitsOf n).map Char.toLower = Number.digitsOf n :=
      (List.map_congr_left fun ch hch => toLower_of_isDigit (hnumber ch hch)).trans (List.map_id _)
    simp only [Number.natText, String.toList_append, String.toList_ofList, List.map_append, List.append_assoc, hsame]
  simp only [mentions, List.any_eq_false, Text.occurs_iff_isInfix] at hbefore hafter ⊢
  rw [hlower]
  intro t ht hinfix
  have hforeign : ∀ ch ∈ Number.digitsOf n, ch ∉ t.toList := by
    intro ch hch hmem
    have hnot := List.all_eq_true.1 (List.all_eq_true.1 hdigits t ht) ch hmem
    rw [hnumber ch hch] at hnot
    cases hnot
  rcases isInfix_of_isInfix_append Nat.toDigits_ne_nil hforeign hinfix with h | h
  · exact hbefore t ht h
  · exact hafter t ht h

theorem isRetryable_of_not_isSyntactic {f : Data.Fault} (h : f.isSyntactic = false) :
    (Failure.unreadableData f).isRetryable = false := by
  obtain ⟨n, hn⟩ : ∃ n, f.problem = .tooManyDigits n := by
    unfold Data.Fault.isSyntactic at h
    split at h
    · exact ⟨_, ‹_›⟩
    · cases h
  have hrefusal : (Failure.unreadableData f).isRefusal = false := rfl
  have htransient : (Failure.unreadableData f).isTransient = false := rfl
  have hmessage : (Failure.unreadableData f).message =
      "Exceeds the limit (4300 digits) for integer string conversion: value has " ++ Number.natText n
        ++ " digits; use sys.set_int_max_str_digits() to increase the limit" := by
    change f.message = _
    rw [Data.Fault.message, hn]
    rfl
  delta Failure.isRetryable
  rw [hrefusal, htransient, hmessage, Bool.false_or, Bool.false_or]
  exact mentions_natText n (by decide +kernel) (by decide +kernel) (by decide +kernel)

namespace Model

open IssuePlanner.Action
open Data.Reader (Blank Begins Read ReadString)
open IssuePlanner.Model.Reply (Braced Leftmost)

variable {r : Request} {s : Session} {text : String} {d report : Datum} {part : List Char} {es : List (String × Datum)}

/-! ### What is read from a text -/

/-- Reads a text as data, or gives a report in its place. -/
def readOr (report : Datum) (text : String) : Except Failure Datum :=
  match Data.parse? text with
  | .ok d => .ok d
  | .error f => if f.isSyntactic then .ok report else .error (.unreadableData f)

theorem readOr_of_ok (h : Data.parse? text = .ok d) : readOr report text = .ok d := by
  rw [readOr, h]

theorem parse?_of_readOr (h : readOr report text = .ok d) (hd : d ≠ report) : Data.parse? text = .ok d := by
  unfold readOr at h
  split at h
  · rename_i d' hparse
    rw [hparse, Except.ok.inj h]
  · split at h
    · exact absurd (Except.ok.inj h).symm hd
    · cases h

theorem not_retryable_readOr (report : Datum) (text : String) : ¬Retryable (readOr report text) := by
  unfold readOr
  split
  · exact not_retryable_ok _
  · rename_i f _
    split
    · exact not_retryable_ok _
    · rename_i hf
      rw [retryable_error, isRetryable_of_not_isSyntactic (by simpa using hf)]
      exact Bool.false_ne_true

theorem openaiData_text (text : String) : Reply.openaiData (.text text) =
    readOr (.dict [("error", .text "Failed to parse JSON"), ("content", .text text)]) text := rfl

theorem geminiData_text (h : Reply.firstBraces? text.toList = some part) : Reply.geminiData (.text text) =
    readOr (.dict [("error", .text "No valid JSON found in response"), ("content", .text text)]) (String.ofList part) := by
  simp only [Reply.geminiData, Reply.asText, bind, Except.bind, h]
  rfl

/-! ### The text of a reply -/

/-- A request for data that is answered at once with a text. -/
structure AnsweredWith (text : String) (r : Request) (s : Session) : Prop where
  wantsData : r.wantsData = true
  serves : Serves s r.model
  replied : ∃ d rest, s.replies = .answer d :: rest ∧
    if isOpenai r.model then Reply.openaiText d = .ok (.text text) else Reply.geminiText d = .text text

theorem AnsweredWith.perform_openai (h : AnsweredWith text r s) (hr : isOpenai r.model = true) :
    (perform (callOnce r) s).1 = Reply.openaiData (.text text) := by
  obtain ⟨d, rest, hreplies, htext⟩ := h.replied
  rw [if_pos hr] at htext
  have hread : r.readAnswer d = Reply.openaiData (.text text) := by
    rw [Request.readAnswer, if_pos hr, htext, h.wantsData]
    rfl
  obtain ⟨s', hrun, -⟩ := perform_callOnce_of_answer h.serves hreplies (by
    rw [hread, openaiData_text]
    exact not_retryable_readOr _ _)
  rw [hrun, hread]

theorem AnsweredWith.perform_gemini (h : AnsweredWith text r s) (hr : isOpenai r.model = false)
    (hpart : Reply.firstBraces? text.toList = some part) :
    (perform (callOnce r) s).1 = Reply.geminiData (.text text) := by
  obtain ⟨d, rest, hreplies, htext⟩ := h.replied
  rw [if_neg (by simp [hr])] at htext
  have hread : r.readAnswer d = Reply.geminiData (.text text) := by
    rw [Request.readAnswer, if_neg (by simp [hr]), if_pos h.wantsData, htext]
  obtain ⟨s', hrun, -⟩ := perform_callOnce_of_answer h.serves hreplies (by
    rw [hread, geminiData_text hpart]
    exact not_retryable_readOr _ _)
  rw [hrun, hread]

/-! ### Dictionaries -/

theorem exists_firstBraces?_of_opened {before x after : List Char} (hopen : x.head? = some '\x7b')
    (hclose : x.getLast? = some '\x7d') : ∃ part, Reply.firstBraces? (before ++ (x ++ after)) = some part := by
  obtain ⟨y, rfl⟩ := List.head?_eq_some_iff.1 hopen
  obtain ⟨ys, rfl⟩ : ∃ ys, y = ys ++ ['\x7d'] := by
    cases y with
    | nil => exact absurd (Option.some.inj hclose) (by decide)
    | cons ch y => exact List.getLast?_eq_some_iff.1 ((List.getLast?_cons_cons).symm.trans hclose)
  have hnil : Reply.Braceless [] := fun _ h => (nomatch h)
  obtain ⟨b, part, a, hcs, hbraced⟩ := Reply.exists_braced hnil ys []
  obtain ⟨first, hfirst⟩ := Reply.exists_firstBraces? hbraced (before ++ b) (a ++ after)
  refine ⟨first, ?_⟩
  rw [List.nil_append] at hcs
  rw [hcs, ← hfirst]
  simp only [List.append_assoc]

theorem head?_of_braced (h : Braced part) : part.head? = some '\x7b' := by
  obtain ⟨inner, -, rfl⟩ := h
  rfl

theorem leftmost_of_braced {before x after : List Char} (hbefore : Blank before) (h : Braced x) :
    Leftmost (before ++ (x ++ after)) x := by
  refine ⟨h, before, after, rfl, fun before' part' after' hcs hbraced => ?_⟩
  obtain ⟨y, rfl⟩ := List.head?_eq_some_iff.1 (head?_of_braced hbraced)
  rcases List.append_eq_append_iff.1 hcs with ⟨w, rfl, -⟩ | ⟨w, rfl, hw⟩
  · simp
  · cases w with
    | nil => simp
    | cons ch w =>
      obtain rfl : '\x7b' = ch := (List.cons.inj hw).1
      exact absurd (hbefore '\x7b' (by simp)) (by decide)

/-- A report holds the whole text, so the text cannot be data that is equal to the report. -/
theorem dict_ne_report (h : Data.parse? text = .ok (.dict es)) (message : String) :
    Datum.dict es ≠ .dict [("error", .text message), ("content", .text text)] := by
  intro hes
  obtain ⟨before, x, after, -, -, htext, hx⟩ := Data.parse?_dict_iff.1 h
  have hmem : ("content", Datum.text text) ∈ es := by
    rw [Datum.dict.inj hes]
    simp
  have hlen : text.length < x.length := hx.texts _ hmem text rfl
  rw [← String.length_toList, htext, List.length_append, List.length_append] at hlen
  omega

/-- Nothing but the text of a dictionary is read as that dictionary from its first character on. -/
theorem eq_of_parse?_start {x p q : List Char} (hx : Read x (.dict es)) (hxp : x = p ++ q)
    (hp : p.head? = some '\x7b') (h : Data.parse? (String.ofList p) = .ok (.dict es)) : q = [] := by
  obtain ⟨before, y, after, hbefore, -, htext, hy⟩ := Data.parse?_dict_iff.1 h
  rw [String.toList_ofList] at htext
  cases before with
  | nil =>
    rw [List.nil_append] at htext
    have hxy : x ++ [] = y ++ (after ++ q) := by rw [List.append_nil, hxp, htext, List.append_assoc]
    obtain ⟨rfl, -⟩ := hx.eq_of_append hy hxy
    exact (List.append_eq_nil_iff.1 (List.append_cancel_left hxy).symm).2
  | cons ch before =>
    rw [htext] at hp
    obtain rfl : ch = '\x7b' := Option.some.inj hp
    exact absurd (hbefore _ List.mem_cons_self) (by decide)

/-- Asked for data and answered with the same text of a dictionary, OpenAI gives the dictionary. Gemini gives what the
first pair of braces is read as that holds at most one level of further ones. That is the dictionary if the
dictionary's own text is such a pair, and something else if a start of that text is one. -/
theorem gemini_data_is_openai_data_iff {r' : Request} {s' : Session} (hopenai : isOpenai r.model = true)
    (hgemini : isGemini r'.model = true) (h : AnsweredWith text r s) (h' : AnsweredWith text r' s')
    (hobject : Data.parse? text = .ok (.dict es)) :
    (perform (callOnce r) s).1 = .ok (.dict es) ∧
    ∃ before x after part, Blank before ∧ Blank after ∧ text.toList = before ++ (x ++ after) ∧
      x.head? = some '\x7b' ∧ x.getLast? = some '\x7d' ∧ Leftmost text.toList part ∧
      (∀ d, Data.parse? (String.ofList part) = .ok d → (perform (callOnce r') s').1 = .ok d) ∧
      ((perform (callOnce r') s').1 = .ok (.dict es) ↔ Data.parse? (String.ofList part) = .ok (.dict es)) ∧
      (Braced x → (perform (callOnce r') s').1 = .ok (.dict es)) ∧
      ∀ p q, x = p ++ q → q ≠ [] → Braced p → (perform (callOnce r') s').1 ≠ .ok (.dict es) := by
  obtain ⟨before, x, after, hbefore, hafter, htext, hx⟩ := Data.parse?_dict_iff.1 hobject
  obtain ⟨hopen, hclose⟩ := hx.braced es rfl
  obtain ⟨part, hpart⟩ : ∃ part, Reply.firstBraces? text.toList = some part := by
    rw [htext]
    exact exists_firstBraces?_of_opened hopen hclose
  have hleft := Reply.leftmost_of_firstBraces? hpart
  have hdata := h'.perform_gemini (Server.isOpenai_of_isGemini hgemini) hpart
  rw [geminiData_text hpart] at hdata
  have hiff : (perform (callOnce r') s').1 = .ok (.dict es) ↔ Data.parse? (String.ofList part) = .ok (.dict es) := by
    rw [hdata]
    exact ⟨fun hread => parse?_of_readOr hread (dict_ne_report hobject _), readOr_of_ok⟩
  refine ⟨?_, before, x, after, part, hbefore, hafter, htext, hopen, hclose, hleft,
    fun d hd => hdata.trans (readOr_of_ok hd), hiff, fun hbraced => ?_, fun p q hxp hq hbraced hread => ?_⟩
  · rw [h.perform_openai hopenai, openaiData_text, readOr_of_ok hobject]
  · have hwhole : Leftmost text.toList x := htext ▸ leftmost_of_braced hbefore hbraced
    rw [hiff, hleft.unique hwhole]
    exact Data.parse?_of_read hx
  · have hstart : Leftmost text.toList p := by
      rw [htext, hxp, List.append_assoc]
      exact leftmost_of_braced hbefore hbraced
    rw [hiff, hleft.unique hstart] at hread
    exact hq (eq_of_parse?_start hx hxp (head?_of_braced hbraced) hread)

def entryText (key : Char) (x : List Char) : List Char := '\x7b' :: '"' :: key :: '"' :: ':' :: ' ' :: (x ++ ['\x7d'])

theorem read_entryText (key : Char) {x : List Char} {d : Datum} (hkey : ReadString [key, '"'] (String.ofList [key]))
    (hx : Read x d) (hbegins : Begins x) : Read (entryText key x) (.dict [(String.ofList [key], d)]) := by
  have hspace : Blank [' '] := fun ch hch => by
    rw [List.mem_singleton.1 hch]
    decide
  exact .dict Data.Reader.blank_nil
    (.last hkey Data.Reader.blank_nil hspace hx hbegins Data.Reader.blank_nil [])

def deepText : String := "\x7b\"a\": \x7b\"b\": \x7b\"c\": 1\x7d\x7d\x7d"

def deepRequest (model : String) : Request := { prompt := "hi", model, format := some "json" }

/-- A session where either provider answers with the text. -/
def deepSession : Session :=
  { manager := some { hasOpenai := true, hasGemini := true }
    replies := [.answer (.record [("output_text", .text deepText), ("text", .text deepText)])] }

/-- Gemini's dictionary is the one inside. -/
theorem gemini_data_lacks_outer_dictionary :
    (perform (callOnce (deepRequest "gpt-4o")) deepSession).1 =
        .ok (.dict [("a", .dict [("b", .dict [("c", .int 1)])])]) ∧
      (perform (callOnce (deepRequest "gemini-2.5-pro")) deepSession).1 = .ok (.dict [("b", .dict [("c", .int 1)])]) := by
  have hone : Read ['1'] (.int 1) := by
    obtain ⟨x, hx, hread⟩ := Data.Reader.exists_of_value
      (show Data.Reader.value 1 ⟨0, ['1']⟩ = .ok (.int 1, ⟨1, []⟩) from rfl)
    rw [List.append_nil] at hx
    rwa [hx]
  have hbegins : ∀ key x, Begins (entryText key x) := fun _ _ => Data.Reader.begins_cons (by decide) _
  have hc := read_entryText 'c' (fun _ _ _ => rfl) hone (Data.Reader.begins_cons (by decide) _)
  have hb := read_entryText 'b' (fun _ _ _ => rfl) hc (hbegins _ _)
  have ha := read_entryText 'a' (fun _ _ _ => rfl) hb (hbegins _ _)
  have htext : deepText = String.ofList (entryText 'a' (entryText 'b' (entryText 'c' ['1']))) := by decide +kernel
  have hobject : Data.parse? deepText = .ok (.dict [("a", .dict [("b", .dict [("c", .int 1)])])]) := by
    rw [htext]
    exact Data.parse?_of_read ha
  have hopenai : AnsweredWith deepText (deepRequest "gpt-4o") deepSession :=
    ⟨rfl, by decide +kernel, _, _, rfl, rfl⟩
  have hgemini : AnsweredWith deepText (deepRequest "gemini-2.5-pro") deepSession :=
    ⟨rfl, by decide +kernel, _, _, rfl, rfl⟩
  obtain ⟨hwhole, before, x, after, part, -, -, -, -, -, hleft, hdata, -, -, -⟩ :=
    gemini_data_is_openai_data_iff (by decide +kernel) (by decide +kernel) hopenai hgemini hobject
  have hfirst : Reply.firstBraces? deepText.toList = some (entryText 'b' (entryText 'c' ['1'])) := by decide +kernel
  have hpart := hleft.unique (Reply.leftmost_of_firstBraces? hfirst)
  subst hpart
  exact ⟨hwhole, hdata _ (Data.parse?_of_read hb)⟩

end Model

end IssuePlanner
