import Mathlib.Data.List.Basic
import Newsstand.Fetch.Sweep
import Newsstand.Proofs.Fetch.Start

/-!
# Whose document is whose

The fetches of a sweep end in any order, and their documents are handed out in
the order of the URLs.  What became of each fetch cannot be read off a sweep in
the end, so the statements are about chronicles, which make the moves of a sweep
and write down which fetches start and with what results they end.

At any time the documents that were handed out and those in the rooms are the
documents of the fetches that were started, one for each of them and in their
order.
-/

namespace Newsstand

/-- The document of a result.  That of a failed fetch is empty. -/
def documentOf : Except FetchFault String → String
  | .ok body => body
  | .error _ => ""

/-- The result of a fetch that has ended, with its URL and its number among the
fetches of a sweep. -/
abbrev Ending := (String × Except FetchFault String) × ℕ

theorem Fetcher.orEmpty_fst (f : Fetcher) (url : String)
    (result : Except FetchFault String) :
    (f.orEmpty url result).1 = documentOf result := by
  cases result with
  | ok body => rfl
  | error fault => rfl

/-- The URL of a room with its document, if it is there. -/
def Room.document : Room → String × Option String
  | .going job => (job.url, none)
  | .done url body => (url, some body)

namespace Sweep

variable {s : Sweep}

/-! ## Documents -/

/-- The URLs of the fetches that were started, with the documents of those that
have ended. -/
def documents (s : Sweep) : List (String × Option String) :=
  s.bodies.map (fun (url, body) => (url, some body)) ++
    s.rooms.map Room.document

theorem length_documents (s : Sweep) :
    s.documents.length = s.bodies.length + s.rooms.length := by
  rw [documents, List.length_append, List.length_map, List.length_map]

/-- A document that is handed out keeps its number. -/
theorem documents_handOut (s : Sweep) : s.handOut.documents = s.documents := by
  obtain ⟨fetcher, pending, rooms, bodies, log⟩ := s
  induction rooms generalizing bodies with
  | nil => simp [documents, handOut]
  | cons room rooms ih =>
      cases room with
      | going job => simp [documents, handOut]
      | done url body =>
          have hrest := ih (bodies ++ [(url, body)])
          simp only [documents, handOut, List.map_append, List.append_assoc,
            List.map_cons, List.map_nil, List.singleton_append,
            List.takeWhile_cons, List.dropWhile_cons, if_true,
            List.filterMap_cons, Room.document] at hrest ⊢
          exact hrest

theorem documents_append (s : Sweep) (room : Room) :
    documents { s with rooms := s.rooms ++ [room] } =
      s.documents ++ [room.document] := by
  simp only [documents, List.map_append, List.append_assoc, List.map_cons,
    List.map_nil]

theorem documents_getElem? (s : Sweep) (i : ℕ) :
    s.documents[s.bodies.length + i]? = (s.rooms[i]?).map Room.document := by
  rw [documents, List.getElem?_append_right (by simp), List.length_map,
    Nat.add_sub_cancel_left, List.getElem?_map]

theorem documents_set (s : Sweep) (i : ℕ) (room : Room) :
    documents { s with rooms := s.rooms.set i room } =
      s.documents.set (s.bodies.length + i) room.document := by
  rw [documents, documents, List.set_append_right _ _ (by simp),
    List.length_map, Nat.add_sub_cancel_left, List.map_set]

/-! ## Moves -/

/-- The URL whose fetch is started in a move, if there is one, and how a fetch
ends in it. -/
def happens (s : Sweep) : Move → List String × List Ending
  | .start =>
      match s.pending with
      | [] => ([], [])
      | url :: _ =>
          if !s.hasRoom then ([], [])
          else
            match (s.fetcher.start url).1 with
            | .job _ => ([url], [])
            | .over fault => ([url], [((url, .error fault), s.documents.length)])
  | .advance i =>
      match s.rooms[i]? with
      | some (.going job) =>
          match job.phase with
          | .waiting _ => ([], [])
          | .downloading download =>
              ([], [((job.url, download.result), s.bodies.length + i)])
      | _ => ([], [])

/-- What a move can do in which some fetches start and some end: nothing; or the
next fetch is started, and it may be over at once; or a fetch ends that was
started before. -/
inductive Effect (s t : Sweep) : List String × List Ending → Prop where
  | same (hpending : t.pending = s.pending)
      (hdocuments : t.documents = s.documents) : Effect s t ([], [])
  | started {url : String} (hpending : s.pending = url :: t.pending)
      (hdocuments : t.documents = s.documents ++ [(url, none)]) :
      Effect s t ([url], [])
  | refused {url : String} {fault : FetchFault}
      (hpending : s.pending = url :: t.pending)
      (hdocuments : t.documents = s.documents ++ [(url, some "")]) :
      Effect s t ([url], [((url, .error fault), s.documents.length)])
  | ended {url : String} {result : Except FetchFault String} {n : ℕ}
      (hpending : t.pending = s.pending)
      (hgoing : s.documents[n]? = some (url, none))
      (hdocuments :
        t.documents = s.documents.set n (url, some (documentOf result))) :
      Effect s t ([], [((url, result), n)])

theorem effect_startNext (s : Sweep) :
    s.Effect s.startNext (s.happens .start) := by
  cases hpending : s.pending with
  | nil =>
      simp only [startNext, happens, hpending]
      exact .same rfl rfl
  | cons url pending =>
      by_cases hroom : s.hasRoom
      · simp only [startNext, happens, hpending, hroom, Bool.not_true,
          Bool.false_eq_true, if_false]
        rcases hstart : s.fetcher.start url with ⟨_ | job, fetcher, log⟩
        next fault =>
            refine .refused hpending ?_
            rw [documents_handOut]
            exact documents_append s (.done url "")
        next =>
            have hurl := (Fetcher.started_of_eq hstart).url
            refine .started hpending ?_
            rw [← hurl]
            exact documents_append s (.going job)
      · simp only [startNext, happens, hpending, hroom, Bool.not_false, if_true]
        exact .same rfl rfl

theorem effect_advance (s : Sweep) (i : ℕ) :
    s.Effect (s.advance i) (s.happens (.advance i)) := by
  rcases hroom : s.rooms[i]? with _ | job | ⟨url, body⟩
  · simp only [advance, happens, hroom]
    exact .same rfl rfl
  · have hdocument := s.documents_getElem? i
    rw [hroom, Option.map_some, Room.document] at hdocument
    cases hphase : job.phase with
    | waiting number =>
        rcases hresume : s.fetcher.resume job number with _ | ⟨next, fetcher⟩
        · simp only [advance, happens, hroom, hphase, hresume]
          exact .same rfl rfl
        · simp only [advance, happens, hroom, hphase, hresume]
          obtain ⟨pool, -, hnext, -⟩ := Fetcher.resume_eq_some hresume
          have hurl : next.url = job.url := by
            rw [hnext]
            rfl
          refine .same rfl ?_
          have hset := s.documents_set i (.going next)
          obtain ⟨hlt, hget⟩ := List.getElem?_eq_some_iff.mp hdocument
          rw [Room.document, hurl, ← hget, List.set_getElem_self] at hset
          exact hset
    | downloading download =>
        simp only [advance, happens, hroom, hphase]
        refine .ended rfl hdocument ?_
        have hset := s.documents_set i
          (endOf (s.fetcher.finish job download).1 job.url download.result).1
        rw [documents_handOut, ← Fetcher.orEmpty_fst]
        exact hset
  · simp only [advance, happens, hroom]
    exact .same rfl rfl

theorem effect_move (s : Sweep) (m : Move) : s.Effect (s.move m) (s.happens m) := by
  cases m with
  | start => exact s.effect_startNext
  | advance i => exact s.effect_advance i

/-! ## Chronicles -/

/-- A sweep with the URLs whose fetches were started, in the order in which this
happened, and the endings of fetches, from the first to the latest one. -/
structure Chronicle where
  sweep : Sweep
  started : List String
  ended : List Ending

namespace Chronicle

/-- The chronicle of a sweep over a list of URLs before its first move. -/
def ofUrls (f : Fetcher) (urls : List String) : Chronicle :=
  ⟨.ofUrls f urls, [], []⟩

/-- Makes a move of the sweep and writes down what happens in it. -/
def move (c : Chronicle) (m : Move) : Chronicle :=
  { sweep := c.sweep.move m
    started := c.started ++ (c.sweep.happens m).1
    ended := c.ended ++ (c.sweep.happens m).2 }

/-- A chronicle at another reading of the clock. -/
def clocked (c : Chronicle) (now : ℕ) : Chronicle :=
  { c with sweep := c.sweep.clocked now }

/-- Makes one move after another, each at a reading of the clock. -/
def timed (c : Chronicle) : List (ℕ × Move) → Chronicle
  | [] => c
  | (now, m) :: ms => ((c.clocked now).move m).timed ms

/-- A chronicle changes nothing about the sweep. -/
theorem timed_sweep (c : Chronicle) (ms : List (ℕ × Move)) :
    (c.timed ms).sweep = c.sweep.timed ms := by
  induction ms generalizing c with
  | nil => rfl
  | cons m ms ih => exact ih ((c.clocked m.1).move m.2)

theorem timed_append (c : Chronicle) (ms ns : List (ℕ × Move)) :
    c.timed (ms ++ ns) = (c.timed ms).timed ns := by
  induction ms generalizing c with
  | nil => rfl
  | cons m ms ih => exact ih ((c.clocked m.1).move m.2)

/-- What the clock and every move preserve holds of a chronicle after all
moves. -/
theorem timed_induction {P : Chronicle → Prop} {c : Chronicle}
    (hclocked : ∀ c now, P c → P (c.clocked now))
    (hmove : ∀ c m, P c → P (c.move m)) (h : P c) (ms : List (ℕ × Move)) :
    P (c.timed ms) := by
  induction ms generalizing c with
  | nil => exact h
  | cons m ms ih => exact ih (hmove _ _ (hclocked _ _ h))

/-- The ending of a fetch with a number.  A fetch is given by its URL and by its
result once it has ended. -/
def ending? (fetch : (String × Option (Except FetchFault String)) × ℕ) :
    Option Ending :=
  fetch.1.2.map fun result => ((fetch.1.1, result), fetch.2)

/-- The endings among some fetches, in the order in which they were started. -/
def endings (fetches : List (String × Option (Except FetchFault String))) :
    List Ending :=
  fetches.zipIdx.filterMap ending?

section Endings

variable {fetches : List (String × Option (Except FetchFault String))}

theorem endings_append_none (url : String) :
    endings (fetches ++ [(url, none)]) = endings fetches := by
  simp [endings, List.zipIdx_append, ending?]

theorem endings_append_some (url : String) (result : Except FetchFault String) :
    endings (fetches ++ [(url, some result)]) =
      endings fetches ++ [((url, result), fetches.length)] := by
  simp [endings, List.zipIdx_append, ending?]

/-- A fetch that has not ended yet adds one ending when it does. -/
theorem endings_set {n : ℕ} {url : String} (result : Except FetchFault String)
    (h : fetches[n]? = some (url, none)) :
    (endings (fetches.set n (url, some result))).Perm
      (endings fetches ++ [((url, result), n)]) := by
  obtain ⟨hlt, hget⟩ := List.getElem?_eq_some_iff.mp h
  obtain ⟨front, back, hfront, hback⟩ :
      ∃ front back, front = fetches.take n ∧ back = fetches.drop (n + 1) :=
    ⟨_, _, rfl, rfl⟩
  have hlength : front.length = n := by
    rw [hfront, List.length_take, Nat.min_eq_left hlt.le]
  have hsplit : fetches = front ++ (url, none) :: back := by
    rw [hfront, hback, ← hget, List.getElem_cons_drop, List.take_append_drop]
  have hset : fetches.set n (url, some result) =
      front ++ (url, some result) :: back := by
    rw [List.set_eq_take_append_cons_drop, if_pos hlt, hfront, hback]
  let after := (back.zipIdx (n + 1)).filterMap ending?
  have hold : endings fetches = endings front ++ after := by
    rw [hsplit]
    simp [endings, List.zipIdx_append, List.filterMap_cons, hlength, ending?,
      after]
  have hnew : endings (fetches.set n (url, some result)) =
      endings front ++ ((url, result), n) :: after := by
    rw [hset]
    simp [endings, List.zipIdx_append, hlength, ending?, after]
  rw [hold, hnew]
  exact List.perm_middle.trans (List.perm_append_singleton _ _).symm

/-- When all fetches have ended, each of them has one ending. -/
theorem endings_all (results : List (String × Except FetchFault String)) :
    endings (results.map fun (url, result) => (url, some result)) =
      results.zipIdx := by
  rw [endings, List.zipIdx_map, List.filterMap_map]
  exact List.filterMap_some

theorem length_endings :
    (endings fetches).length = fetches.countP (·.2.isSome) := by
  rw [endings, List.length_filterMap_eq_countP]
  conv_rhs => rw [← List.zipIdx_map_fst 0 fetches, List.countP_map]
  simp [ending?, Function.comp_def]

end Endings

/-- A chronicle of a sweep over some URLs tells the truth about its fetches, the
first of which have been started: the sweep has their documents, and each fetch
that has ended did so once. -/
structure Faithful (urls : List String) (c : Chronicle)
    (fetches : List (String × Option (Except FetchFault String))) :
    Prop where
  listed : c.started ++ c.sweep.pending = urls
  started : c.started = fetches.map Prod.fst
  documents : c.sweep.documents =
    fetches.map fun fetch => (fetch.1, fetch.2.map documentOf)
  ended : c.ended.Perm (endings fetches)

variable {urls : List String} {c : Chronicle}
  {fetches : List (String × Option (Except FetchFault String))}

theorem faithful_ofUrls (f : Fetcher) (urls : List String) :
    (ofUrls f urls).Faithful urls [] :=
  ⟨rfl, rfl, rfl, List.Perm.nil⟩

theorem Faithful.length_documents (h : c.Faithful urls fetches) :
    c.sweep.documents.length = fetches.length := by
  rw [h.documents, List.length_map]

theorem Faithful.move (h : c.Faithful urls fetches) (m : Move) :
    ∃ next, (c.move m).Faithful urls next := by
  have hlisted := h.listed
  have heffect := c.sweep.effect_move m
  rcases hhappens : c.sweep.happens m with ⟨started, ended⟩
  rw [hhappens] at heffect
  cases heffect with
  | same hpending hdocuments =>
      refine ⟨fetches, ?_, ?_, ?_, ?_⟩
      · simpa [Chronicle.move, hhappens, hpending] using hlisted
      · simpa [Chronicle.move, hhappens] using h.started
      · exact hdocuments.trans h.documents
      · simpa [Chronicle.move, hhappens] using h.ended
  | @started url hpending hdocuments =>
      refine ⟨fetches ++ [(url, none)], ?_, ?_, ?_, ?_⟩
      · simpa [Chronicle.move, hhappens, hpending] using hlisted
      · simp [Chronicle.move, hhappens, h.started]
      · simp [Chronicle.move, hdocuments, h.documents]
      · rw [endings_append_none]
        simpa [Chronicle.move, hhappens] using h.ended
  | @refused url fault hpending hdocuments =>
      refine ⟨fetches ++ [(url, some (.error fault))], ?_, ?_, ?_, ?_⟩
      · simpa [Chronicle.move, hhappens, hpending] using hlisted
      · simp [Chronicle.move, hhappens, h.started]
      · simp [Chronicle.move, hdocuments, h.documents, documentOf]
      · rw [endings_append_some, ← h.length_documents]
        simpa [Chronicle.move, hhappens] using h.ended.append_right _
  | @ended url result n hpending hgoing hdocuments =>
      have hfetch : fetches[n]? = some (url, none) := by
        rw [h.documents, List.getElem?_map] at hgoing
        obtain ⟨⟨link, result?⟩, hget, heq⟩ := Option.map_eq_some_iff.mp hgoing
        simp only [Prod.mk.injEq, Option.map_eq_none_iff] at heq
        rw [hget, heq.1, heq.2]
      refine ⟨fetches.set n (url, some result), ?_, ?_, ?_, ?_⟩
      · simpa [Chronicle.move, hhappens, hpending] using hlisted
      · have hurl : (fetches.map Prod.fst)[n]? = some url := by
          rw [List.getElem?_map, hfetch, Option.map_some]
        obtain ⟨hlt, hget⟩ := List.getElem?_eq_some_iff.mp hurl
        have hsame : (fetches.map Prod.fst).set n url = fetches.map Prod.fst := by
          rw [← hget, List.set_getElem_self]
        simp [Chronicle.move, hhappens, h.started, List.map_set, hsame]
      · simp [Chronicle.move, hdocuments, h.documents, List.map_set]
      · have hnew := endings_set result hfetch
        simpa [Chronicle.move, hhappens] using
          (h.ended.append_right _).trans hnew.symm

theorem Faithful.clocked (h : c.Faithful urls fetches) (now : ℕ) :
    (c.clocked now).Faithful urls fetches :=
  ⟨h.listed, h.started, h.documents, h.ended⟩

theorem exists_faithful_timed (f : Fetcher) (urls : List String)
    (ms : List (ℕ × Move)) :
    ∃ fetches, ((ofUrls f urls).timed ms).Faithful urls fetches := by
  apply timed_induction (P := fun c => ∃ fetches, c.Faithful urls fetches)
  · rintro c now ⟨fetches, h⟩
    exact ⟨fetches, h.clocked now⟩
  · rintro c m ⟨fetches, h⟩
    exact h.move m
  · exact ⟨[], faithful_ofUrls f urls⟩

/-! ## What a chronicle tells -/

theorem Faithful.started_isPrefix (h : c.Faithful urls fetches) :
    c.started <+: urls :=
  ⟨c.sweep.pending, h.listed⟩

/-- The fetches that have not ended are in the rooms. -/
theorem Faithful.length_started_le (h : c.Faithful urls fetches) :
    c.started.length ≤ c.ended.length + c.sweep.rooms.length := by
  have hstarted : c.started.length =
      c.sweep.bodies.length + c.sweep.rooms.length := by
    rw [h.started, List.length_map, ← h.length_documents,
      Sweep.length_documents]
  have hended : c.ended.length = c.sweep.documents.countP (·.2.isSome) := by
    rw [h.ended.length_eq, length_endings, h.documents, List.countP_map]
    simp [Function.comp_def]
  have hhanded : c.sweep.bodies.length ≤
      c.sweep.documents.countP (·.2.isSome) := by
    rw [Sweep.documents, List.countP_append, List.countP_map]
    simp [Function.comp_def]
  omega

/-- Where there are all documents, there are all results. -/
theorem exists_results {bodies : List (String × String)}
    (h : (fetches.map fun fetch => (fetch.1, fetch.2.map documentOf)) =
      bodies.map fun (url, body) => (url, some body)) :
    ∃ results : List (String × Except FetchFault String),
      fetches = (results.map fun (url, result) => (url, some result)) ∧
      bodies = results.map fun (url, result) => (url, documentOf result) := by
  induction fetches generalizing bodies with
  | nil =>
      rw [List.map_nil, eq_comm, List.map_eq_nil_iff] at h
      exact ⟨[], rfl, h⟩
  | cons fetch fetches ih =>
      obtain ⟨url, result?⟩ := fetch
      cases bodies with
      | nil => cases h
      | cons first bodies =>
          obtain ⟨link, body⟩ := first
          simp only [List.map_cons, List.cons.injEq, Prod.mk.injEq,
            Option.map_eq_some_iff] at h
          obtain ⟨⟨rfl, result, rfl, rfl⟩, hrest⟩ := h
          obtain ⟨results, rfl, rfl⟩ := ih hrest
          exact ⟨(url, result) :: results, rfl, rfl⟩

/-- When all documents have been handed out, each URL has got the document of its
own fetch, which was started once and has ended once. -/
theorem Faithful.of_isOver (h : c.Faithful urls fetches)
    (hover : c.sweep.isOver) :
    ∃ results : List (String × Except FetchFault String),
      results.map Prod.fst = urls ∧ c.started = urls ∧
      c.ended.Perm results.zipIdx ∧
      c.sweep.bodies =
        results.map fun (url, result) => (url, documentOf result) := by
  simp only [isOver, Bool.and_eq_true, List.isEmpty_iff] at hover
  obtain ⟨hpending, hrooms⟩ := hover
  have hdocuments := h.documents
  rw [Sweep.documents, hrooms, List.map_nil, List.append_nil] at hdocuments
  obtain ⟨results, rfl, hbodies⟩ := exists_results hdocuments.symm
  have hlisted := h.listed
  rw [hpending, List.append_nil] at hlisted
  refine ⟨results, ?_, hlisted, ?_, hbodies⟩
  · rw [← hlisted, h.started, List.map_map]
    rfl
  · rw [← endings_all]
    exact h.ended

end Chronicle

end Sweep

end Newsstand
