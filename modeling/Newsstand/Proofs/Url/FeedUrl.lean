import Newsstand.Http.Request
import Newsstand.Proofs.Support.Trimming
import Newsstand.Url.FeedUrl

/-!
# Feed URLs and requests

A text that is accepted as the URL of a feed is read once more when the feed is
asked for.  The second reading takes the text as it is, so it sees the same URL
if the text is trimmed; what the client asks for in addition is a matter of
lengths and of some characters of the host.
-/

namespace Newsstand.Url

open Newsstand.Text

variable {s : String} {url : Url}

theorem readFeedUrl_eq_ok (h : readFeedUrl s = .ok url) :
    read (trim s) = .ok url ∧ (url.scheme = "http" ∨ url.scheme = "https") ∧
      url.hostText?.isSome := by
  unfold readFeedUrl at h
  split at h
  · cases h
  next read hread =>
      split_ifs at h with hscheme hhost
      obtain rfl := Except.ok.inj h
      exact ⟨hread, hscheme, hhost⟩

theorem not_isBlankString_of_readFeedUrl (h : readFeedUrl s = .ok url) :
    ¬isBlankString s := by
  intro hblank
  obtain ⟨hread, -⟩ := readFeedUrl_eq_ok h
  rw [trim_of_isBlankString hblank] at hread
  cases hread

/-! ## Requests -/

/-- The client takes no URL that is too long or whose host holds a quote or a
brace. -/
def Unaskable (url : Url) : Prop :=
  maxRequestLength < url.text.utf8ByteSize ∨
    ∃ c ∈ (url.hostText?.getD "").toList, c ∈ "\"\x60\x7b\x7d".toList

theorem unaskable_of_canBeRequested_eq_false
    (hscheme : url.scheme = "http" ∨ url.scheme = "https")
    (h : ¬url.canBeRequested) : url.Unaskable := by
  have hhttp : (url.scheme == "http" || url.scheme == "https") = true := by
    simpa using hscheme
  by_cases hlength : url.text.utf8ByteSize ≤ maxRequestLength
  · refine Or.inr ?_
    simpa only [canBeRequested, hhttp, hlength, decide_true, Bool.true_and,
      List.all_eq_true, Bool.not_eq_true', Bool.not_eq_false, not_forall,
      exists_prop, List.contains_iff_mem] using h
  · exact Or.inl (Nat.lt_of_not_le hlength)

theorem scheme_withoutCredentials (url : Url) :
    url.withoutCredentials.scheme = url.scheme := by
  simp only [withoutCredentials]
  split_ifs <;> rfl

/-- Where the text of a feed URL is trimmed, a request can be made for it, but for
what the client does not take. -/
theorem readRequest_of_readFeedUrl (htrim : trim s = s)
    (h : readFeedUrl s = .ok url) :
    (∃ asked, readRequest s = .ok asked) ∨
      readRequest s = .error (.unsupported url.withoutCredentials.text) ∧
        url.withoutCredentials.Unaskable := by
  obtain ⟨hread, hscheme, hhost⟩ := readFeedUrl_eq_ok h
  rw [htrim] at hread
  have hnamed : ¬url.hostText?.isNone := by
    simpa [Option.isNone_iff_eq_none, Option.ne_none_iff_isSome] using hhost
  rw [readRequest, hread]
  simp only [prepare, if_neg hnamed]
  split
  next hasked => exact Or.inl ⟨_, rfl⟩
  next hasked =>
      refine Or.inr ⟨rfl, unaskable_of_canBeRequested_eq_false ?_ hasked⟩
      rwa [scheme_withoutCredentials]

end Newsstand.Url
