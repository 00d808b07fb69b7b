import Newsstand.Fetch.Download
import Newsstand.Proofs.Text.Utf8

/-!
# Bodies within the limit

The octets of a body are counted while its pieces come in, and a declared number
of octets is looked at before.  What a body comes to does not show this: it is
decided by the octets alone, by what is declared of them, and by whether their
end is reached.
-/

namespace Newsstand

open Newsstand.Text

namespace Body

/-- The octets of a body, without the cuts between its pieces. -/
def octets (body : Body) : List UInt8 :=
  body.pieces.flatten

/-- A body declares more octets than the limit, or has more of them. -/
def Exceeds (body : Body) (limit : ℕ) : Prop :=
  (∃ n ∈ body.declared?, limit < n) ∨ limit < body.octets.length

instance (body : Body) (limit : ℕ) : Decidable (body.Exceeds limit) :=
  inferInstanceAs (Decidable ((∃ n ∈ body.declared?, limit < n) ∨ _))

/-- Where the limit is exceeded, it does not matter in which piece. -/
theorem readPieces_eq {limit : ℕ} {done : List UInt8}
    (hdone : done.length ≤ limit) (complete : Bool)
    (pieces : List (List UInt8)) :
    readPieces limit complete done pieces =
      if limit < (done ++ pieces.flatten).length then .error .tooLarge
      else if complete then .ok (done ++ pieces.flatten)
      else .error .cutOff := by
  induction pieces generalizing done with
  | nil =>
      rw [readPieces, List.flatten_nil, List.append_nil,
        if_neg (Nat.not_lt.mpr hdone)]
  | cons piece pieces ih =>
      rw [readPieces, List.flatten_cons, ← List.append_assoc]
      by_cases hpiece : limit < done.length + piece.length
      · have hmore : limit < (done ++ piece ++ pieces.flatten).length := by
          simp only [List.length_append]
          omega
        rw [if_pos hpiece, if_pos hmore]
      · rw [if_neg hpiece, ih]
        rw [List.length_append]
        exact Nat.le_of_not_lt hpiece

/-- What a body is read as. -/
theorem read_eq (limit : ℕ) (body : Body) :
    body.read limit =
      if body.Exceeds limit then .error .tooLarge
      else if body.complete then .ok body.octets
      else .error .cutOff := by
  have hdeclared : body.declared?.any (limit < ·) = true ↔
      ∃ n ∈ body.declared?, limit < n := by
    simp [Option.any_eq_true]
  have hnone : ([] : List UInt8).length ≤ limit := Nat.zero_le limit
  have hpieces := readPieces_eq hnone body.complete body.pieces
  rw [List.nil_append] at hpieces
  rw [read, hpieces]
  by_cases hmore : ∃ n ∈ body.declared?, limit < n
  · have hexceeds : body.Exceeds limit := Or.inl hmore
    rw [if_pos (hdeclared.mpr hmore), if_pos hexceeds]
  · have hexceeds : body.Exceeds limit ↔ limit < body.pieces.flatten.length :=
      or_iff_right hmore
    rw [if_neg (mt hdeclared.mp hmore)]
    simp only [hexceeds, octets]

end Body

namespace Response

theorem text_eq (config : FetchConfig) (response : Response) :
    response.text config =
      if response.body.Exceeds config.maxBodyBytes then
        .error (.tooLarge config.maxBodyBytes)
      else if response.body.complete then
        .ok (Utf8.decodeLossy response.body.octets)
      else .error (.request .brokenBody) := by
  rw [text, Body.read_eq]
  by_cases hexceeds : response.body.Exceeds config.maxBodyBytes
  · rw [if_pos hexceeds, if_pos hexceeds]
  · rw [if_neg hexceeds, if_neg hexceeds]
    cases response.body.complete <;> rfl

/-- Of a body it only matters whether it exceeds the limit, which octets it has,
and whether their end is reached. -/
theorem text_congr {config : FetchConfig} {r s : Response}
    (hexceeds : r.body.Exceeds config.maxBodyBytes ↔
      s.body.Exceeds config.maxBodyBytes)
    (hoctets : r.body.octets = s.body.octets)
    (hcomplete : r.body.complete = s.body.complete) :
    r.text config = s.text config := by
  rw [text_eq, text_eq, hoctets, hcomplete]
  simp only [hexceeds]

/-- A response is read by its status and its text. -/
theorem document_congr {config : FetchConfig} {r s : Response}
    (hstatus : r.status = s.status) (htext : r.text config = s.text config)
    (url : String) : r.document config url = s.document config url := by
  have hsuccess : r.isSuccess = s.isSuccess := by
    rw [isSuccess, isSuccess, hstatus]
  have hreport : reportFetched url r = reportFetched url s := by
    rw [reportFetched, reportFetched, statusText, statusText, hstatus]
  rw [document, document, hsuccess, htext, hreport, hstatus]

/-- The text of a response is that of its octets, as long as there are no more of
them than the limit and no more are declared.  Where the octets are cut has no
influence on this, not even within a character, and of a body whose end is
reached neither has an accurate number of octets. -/
theorem text_of_octets (config : FetchConfig) (url : String)
    (response : Response) :
    let limit := config.maxBodyBytes
    let body := response.body
    response.text config =
        (if body.Exceeds limit then .error (.tooLarge limit)
        else if body.complete then .ok (Utf8.decodeLossy body.octets)
        else .error (.request .brokenBody)) ∧
      (∀ text, response.text config = .ok text →
        body.octets.length ≤ limit ∧
          ∀ s, body.octets = Utf8.encode s → text = s) ∧
      (∀ pieces, pieces.flatten = body.octets →
        document config url { response with body := { body with pieces } } =
          response.document config url) ∧
      (body.complete →
        document config url { response with
            body := { body with declared? := some body.octets.length } } =
          document config url { response with
            body := { body with declared? := none } }) := by
  intro limit body
  have htext := response.text_eq config
  refine ⟨htext, fun text hok => ?_, fun pieces hpieces => ?_, fun hend => ?_⟩
  · rw [htext] at hok
    split at hok
    next => cases hok
    next hexceeds =>
        refine ⟨Nat.le_of_not_lt fun hmore => hexceeds (Or.inr hmore), ?_⟩
        intro s hs
        split at hok
        next =>
            obtain rfl := Except.ok.inj hok
            rw [hs, Utf8.decodeLossy_encode]
        next => cases hok
  · refine document_congr ?_ (text_congr ?_ ?_ ?_) url
    · rfl
    · simp only [Body.Exceeds, Body.octets] at hpieces ⊢
      rw [hpieces]
    · exact hpieces
    · rfl
  · refine document_congr ?_ (text_congr ?_ ?_ ?_) url
    · rfl
    · simp [Body.Exceeds, Body.octets]
    · rfl
    · rfl

/-- A body of exactly as many octets as the limit comes in three pieces, one of
them empty, with a cut in its first character.  A longer one is also broken
off. -/
theorem text_of_octets_cut_in_character :
    let config : FetchConfig := { maxBodyBytes := 3 }
    let url := "http://a.test/"
    let pieces : List (List UInt8) := [[0xC3], [], [0xA4, 0x21]]
    let cut : Response := ⟨200, none, ⟨none, pieces, true⟩⟩
    let whole : Response := ⟨200, none, ⟨none, [pieces.flatten], true⟩⟩
    let declared : Response := ⟨200, none, ⟨some 3, pieces, true⟩⟩
    let longer : Response := ⟨200, none, ⟨none, pieces ++ pieces, false⟩⟩
    cut.body.octets = Utf8.encode "ä!" ∧
      cut.text config = .ok "ä!" ∧
      whole.document config url = cut.document config url ∧
      declared.document config url = cut.document config url ∧
      longer.text config = .error (.tooLarge 3) := by
  intro config url pieces cut whole declared longer
  have hoctets : cut.body.octets = Utf8.encode "ä!" := by decide +kernel
  obtain ⟨htext, hchars, hcuts, hlength⟩ := text_of_octets config url cut
  have hok : cut.text config = .ok (Utf8.decodeLossy cut.body.octets) := by
    rw [htext, if_neg (by decide), if_pos rfl]
  obtain ⟨-, hdecoded⟩ := hchars _ hok
  have hlonger := (text_of_octets config url longer).1
  refine ⟨hoctets, ?_, hcuts [pieces.flatten] ?_, hlength rfl, ?_⟩
  · rw [hok, hdecoded "ä!" hoctets]
  · exact List.append_nil _
  · rw [hlonger, if_pos (by decide)]

end Response

end Newsstand
