import Newsstand.Proofs.Fetch.Start
import Newsstand.Proofs.Url.FeedUrl

/-!
# Requests that cannot be made

A fetch can fail before anything is sent, since the text is no URL or the client
does not take it.  Once a request was made for the text, only the target of a
redirect can be at fault, and then a server has been asked.
-/

namespace Newsstand

/-- A fault that is none of a text that cannot be requested.  If some URL cannot,
it is the target of a redirect, as a server has been asked. -/
def RequestFault.IsBehind (fault : RequestFault) (requests : List Request) :
    Prop :=
  fault ≠ .notUrl ∧ ∀ text, fault = .unsupported text → requests ≠ []

theorem RequestFault.isBehind_cons {fault : RequestFault} (request : Request)
    (requests : List Request) (h : fault ≠ .notUrl) :
    fault.IsBehind (request :: requests) :=
  ⟨h, fun _ _ => List.cons_ne_nil _ _⟩

/-- An exchange fails before a server is asked only if it is not answered. -/
theorem Network.exchange_fault {agent : String} {timeoutMs redirects : ℕ}
    {n : Network} {elapsed : ℕ} {url : Url} {fault : RequestFault}
    (h : (n.exchange agent timeoutMs redirects elapsed url).reply =
      .error (.request fault)) :
    fault.IsBehind
      (n.exchange agent timeoutMs redirects elapsed url).requests := by
  fun_induction Network.exchange agent timeoutMs redirects n elapsed url with
  | case1 | case2 =>
      cases h
      exact ⟨by simp, by simp⟩
  | case3 | case7 | case9 =>
      cases h
      exact RequestFault.isBehind_cons _ _ (by simp)
  | case4 | case5 | case6 => cases h
  | case8 =>
      rename_i ih
      exact RequestFault.isBehind_cons _ _ (ih h).1

/-- A download fails before a server is asked only if no request can be made for
its text, or if it is not answered. -/
theorem Network.download_fault {n : Network} {config : FetchConfig}
    {text : String} {asked : Url} {fault : RequestFault}
    (hasked : Url.readRequest text = .ok asked)
    (h : (n.download config text).result = .error (.request fault)) :
    fault.IsBehind (n.download config text).requests := by
  simp only [download, hasked] at h ⊢
  cases hreply : (n.exchange config.userAgent config.timeoutMs maxRedirects 0
      asked).reply with
  | error failed =>
      rw [hreply] at h
      cases failed with
      | timeout => cases h
      | request failed =>
          cases h
          exact exchange_fault hreply
  | ok response =>
      rw [hreply] at h
      simp only [Response.document] at h
      split at h
      · unfold Response.text at h
        split at h
        · cases h
        · cases h
        · cases h
          exact ⟨by simp, by simp⟩
      · cases h

/-- A fetch gives what its download comes to, unless the breaker or the pool turns
it away. -/
theorem Fetcher.result_of_tryFetch {f g : Fetcher} {url : String}
    {result : Except FetchFault String} {log : Log}
    (h : f.tryFetch url = (some result, g, log)) :
    (∃ fault : FetchFault, ¬fault.wasAttempted ∧ result = .error fault) ∨
      result = (f.network.download f.config url).result ∧
        g.requests =
          f.requests ++ (f.network.download f.config url).requests := by
  unfold Fetcher.tryFetch at h
  split at h
  next fault next startLog heq =>
      cases h
      refine Or.inl ⟨fault, ?_, rfl⟩
      cases started_of_eq heq <;> simp [FetchFault.wasAttempted]
  next job next startLog heq =>
      have hstarted := started_of_eq heq
      split at h
      next => cases h
      next download hphase =>
          cases h
          obtain rfl := hstarted.download hphase
          refine Or.inr ⟨rfl, ?_⟩
          cases hstarted with
          | waiting hask hfree hroom => cases hphase
          | sent hask hfree => rfl

/-- Where a fetch of a trimmed feed URL fails with a request, the text was a URL;
and if a URL is one that the client does not take, it is that of the feed, being
too long or having a quote or a brace in its host, or it comes from a redirect. -/
theorem Fetcher.fault_of_tryFetch {f g : Fetcher} {url : String} {target : Url}
    {fault : RequestFault} {log : Log} (htrim : Text.trim url = url)
    (hread : Url.readFeedUrl url = .ok target)
    (h : f.tryFetch url = (some (.error (.request fault)), g, log)) :
    fault ≠ .notUrl ∧ ∀ text, fault = .unsupported text →
      (text = target.withoutCredentials.text ∧
          target.withoutCredentials.Unaskable) ∨
        f.requests.length < g.requests.length := by
  rcases Fetcher.result_of_tryFetch h with ⟨other, hother, hfault⟩ |
    ⟨hresult, hrequests⟩
  · obtain rfl := Except.error.inj hfault
    exact absurd rfl hother
  rcases Url.readRequest_of_readFeedUrl htrim hread with ⟨asked, hasked⟩ |
    ⟨hrefused, hunaskable⟩
  · obtain ⟨hurl, hbehind⟩ := Network.download_fault hasked hresult.symm
    refine ⟨hurl, fun text htext => Or.inr ?_⟩
    rw [hrequests, List.length_append]
    exact Nat.lt_add_of_pos_right
      (List.length_pos_iff.mpr (hbehind text htext))
  · simp only [Network.download, hrefused] at hresult
    cases hresult
    refine ⟨by simp, fun text htext => Or.inl ?_⟩
    cases htext
    exact ⟨rfl, hunaskable⟩

end Newsstand
