import ContentGraph.Proofs.Download.Names
import ContentGraph.Proofs.Keyed

/-!
# Runs of downloads

Requests for many addresses come in any order, with answers that change from one to the next.  What
one request changes concerns its own address only, and only a success is remembered; all that is
said of runs follows from that.

* `Attempt.Unserved`, `Attempt.Serves` — the requests that bring no file, and the contents that the
  others bring;
* `Downloads.Outcome` with `outcome_step` — all that one request can do;
* `Downloads.Sound` with `Sound.step`, `Sound.run` — what is known and stored after any run;
* `Downloads.Alike` with `Alike.run` — a run as the requests for one address see it;
* `fetcher_runs` — successes, failures, other addresses and places of files in any run;
* `unchanged_answer_is_stored` — an answer that is no success and is kept all the same.
-/

namespace ContentGraph

/-! ### What a request can do -/

/-- Why a request brings no file: its text is no address, no server answers, or the status of the
answer is one of failure, from 400 to 599. -/
inductive Attempt.Unserved (attempt : Attempt) : Prop
  | unparsable (parsed : Url.parse? attempt.request.url = none)
  | unreachable {address : Url} {report : String}
      (parsed : Url.parse? attempt.request.url = some address)
      (silent : attempt.client.send address = .error report)
  | refused {address : Url} {response : Response}
      (parsed : Url.parse? attempt.request.url = some address)
      (answered : attempt.client.send address = .ok response)
      (least : 400 ≤ response.status) (greatest : response.status ≤ 599)

/-- The content that a request brings: the body of an answer of any other status, whether it says
that the request succeeded or that the server sends no file. -/
inductive Attempt.Serves (attempt : Attempt) : List UInt8 → Prop
  | answered {address : Url} {response : Response}
      (parsed : Url.parse? attempt.request.url = some address)
      (answered : attempt.client.send address = .ok response)
      (other : response.status < 400 ∨ 599 < response.status) : attempt.Serves response.body

/-- A request that brings a content has no reason to bring none. -/
theorem Attempt.Serves.not_unserved {attempt : Attempt} {content : List UInt8}
    (h : attempt.Serves content) : ¬attempt.Unserved := by
  obtain ⟨parsed, answered, other⟩ := h
  intro hunserved
  cases hunserved with
  | unparsable hnone => exact absurd (parsed.symm.trans hnone) (Option.some_ne_none _)
  | unreachable hsame silent =>
    cases parsed.symm.trans hsame
    cases answered.symm.trans silent
  | refused hsame hanswered least greatest =>
    cases parsed.symm.trans hsame
    cases answered.symm.trans hanswered
    omega

/-- A request brings one content only. -/
theorem Attempt.Serves.unique {attempt : Attempt} {content other : List UInt8}
    (h : attempt.Serves content) (hother : attempt.Serves other) : content = other := by
  obtain ⟨parsed, answered, -⟩ := h
  obtain ⟨otherParsed, otherAnswered, -⟩ := hother
  cases parsed.symm.trans otherParsed
  cases answered.symm.trans otherAnswered
  rfl

/-- The file that a download of some content gives. -/
def Attempt.file (attempt : Attempt) (path : String) (content : List UInt8) : FileNode where
  id := Digest.hexSha256 attempt.request.url
  parentNodeId := attempt.request.parentNodeId
  url := attempt.request.url
  path := path
  size := content.length

/-- A request brings a file unless there is a reason why not. -/
theorem Download.get?_cases (attempt : Attempt) (cacheDir : String) :
    (attempt.Unserved ∧
        ∃ e, Download.get? attempt.client cacheDir attempt.request = .error e) ∨
      ∃ path content, attempt.Serves content ∧
        Download.path? cacheDir attempt.request.url = some path ∧
        Download.get? attempt.client cacheDir attempt.request =
          .ok (attempt.file path content, content) := by
  rw [get?]
  cases hparsed : Url.parse? attempt.request.url with
  | none => exact Or.inl ⟨.unparsable hparsed, _, rfl⟩
  | some address =>
    dsimp only
    cases hanswered : attempt.client.send address with
    | error report => exact Or.inl ⟨.unreachable hparsed hanswered, _, rfl⟩
    | ok response =>
      dsimp only
      by_cases hfailing : isFailure response.status = true
      · rw [if_pos hfailing]
        obtain ⟨least, greatest⟩ := isFailure_iff.mp hfailing
        exact Or.inl ⟨.refused hparsed hanswered least greatest, _, rfl⟩
      · rw [if_neg hfailing]
        rw [isFailure_iff] at hfailing
        refine Or.inr ⟨_, response.body, .answered hparsed hanswered (by omega), ?_, rfl⟩
        rw [path?, hparsed]
        rfl

namespace Downloads

variable {downloads : Downloads} {attempt : Attempt} {url path : String}

/-- All that a request can do to what is known: answer a file that is known, bring no file, fail at
the disk, or store a file. -/
inductive Outcome (downloads : Downloads) (attempt : Attempt) :
    Except DownloadError FileNode × Downloads → Prop
  | known {file : FileNode} (found : Keyed.get? attempt.request.url downloads.files = some file) :
      Outcome downloads attempt (.ok { file with parentNodeId := attempt.request.parentNodeId },
        downloads)
  | unserved {e : DownloadError} (unknown : Keyed.get? attempt.request.url downloads.files = none)
      (unserved : attempt.Unserved) :
      Outcome downloads attempt (.error e, downloads.asking attempt.request.url)
  | faulty {e : DownloadError} {stored : List (String × List UInt8)} {path : String}
      {body : List UInt8}
      (unknown : Keyed.get? attempt.request.url downloads.files = none)
      (served : attempt.Serves body) (fault : attempt.fault ≠ none)
      (place : Download.path? downloads.cacheDir attempt.request.url = some path)
      (left : stored = downloads.stored ∨ ∃ content,
        stored = Keyed.set path content downloads.stored) :
      Outcome downloads attempt (.error e, { downloads.asking attempt.request.url with stored })
  | stored {path : String} {content : List UInt8}
      (unknown : Keyed.get? attempt.request.url downloads.files = none)
      (served : attempt.Serves content) (fault : attempt.fault = none)
      (place : Download.path? downloads.cacheDir attempt.request.url = some path) :
      Outcome downloads attempt (.ok (attempt.file path content),
        { downloads.asking attempt.request.url with
          files := Keyed.set attempt.request.url (attempt.file path content) downloads.files
          stored := Keyed.set path content downloads.stored })

/-- **One request** does nothing else. -/
theorem outcome_step (downloads : Downloads) (attempt : Attempt) :
    Outcome downloads attempt (downloads.step attempt) := by
  rw [step]
  cases hknown : Keyed.get? attempt.request.url downloads.files with
  | some file => exact .known hknown
  | none =>
    dsimp only
    rcases Download.get?_cases attempt downloads.cacheDir with
      ⟨hunserved, e, hget⟩ | ⟨path, content, hserved, hplace, hget⟩
    · rw [hget]
      exact .unserved hknown hunserved
    · rw [hget]
      dsimp only
      cases hfault : attempt.fault with
      | none => exact .stored hknown hserved hfault hplace
      | some fault =>
        have hsome : attempt.fault ≠ none := by
          rw [hfault]
          exact Option.some_ne_none fault
        cases fault with
        | directory => exact .faulty hknown hserved hsome hplace (Or.inl rfl)
        | file left =>
          cases left with
          | none => exact .faulty hknown hserved hsome hplace (Or.inl rfl)
          | some content => exact .faulty hknown hserved hsome hplace (Or.inr ⟨content, rfl⟩)

/-! ### What a request leaves alone -/

/-- The cache directory stays. -/
@[simp] theorem cacheDir_step (downloads : Downloads) (attempt : Attempt) :
    (downloads.step attempt).2.cacheDir = downloads.cacheDir := by
  have h := outcome_step downloads attempt
  generalize downloads.step attempt = result at h
  cases h <;> rfl

/-- A request fails for a reason, and nothing is known that was not known before. -/
theorem failure_of_error {e : DownloadError} (h : (downloads.step attempt).1 = .error e) :
    Keyed.get? attempt.request.url downloads.files = none ∧
      (attempt.Unserved ∨ attempt.fault ≠ none) ∧
      (downloads.step attempt).2.files = downloads.files ∧
      (attempt.Unserved → (downloads.step attempt).2.stored = downloads.stored) := by
  have houtcome := outcome_step downloads attempt
  generalize downloads.step attempt = result at h houtcome
  cases houtcome with
  | known found => cases h
  | unserved unknown hunserved => exact ⟨unknown, Or.inl hunserved, rfl, fun _ => rfl⟩
  | faulty unknown served fault place left =>
    exact ⟨unknown, Or.inr fault, rfl, fun h => absurd h served.not_unserved⟩
  | stored unknown served fault place => cases h

/-- **A request fails** exactly when it brings no file or the disk refuses it, unless its file is
known. -/
theorem exists_error_iff (unknown : Keyed.get? attempt.request.url downloads.files = none) :
    (∃ e, (downloads.step attempt).1 = .error e) ↔ attempt.Unserved ∨ attempt.fault ≠ none := by
  refine ⟨fun ⟨e, herror⟩ => (failure_of_error herror).2.1, fun hreason => ?_⟩
  have houtcome := outcome_step downloads attempt
  generalize downloads.step attempt = result at houtcome
  cases houtcome with
  | known found =>
    rw [unknown] at found
    cases found
  | unserved unknown hunserved => exact ⟨_, rfl⟩
  | faulty unknown served fault place left => exact ⟨_, rfl⟩
  | stored unknown served fault place =>
    rcases hreason with hunserved | hfault
    · exact absurd hunserved served.not_unserved
    · exact absurd fault hfault

/-- **A content that a request brings** is stored and its file made known, when the disk refuses
nothing. -/
theorem exists_stored_of_serves {content : List UInt8} (served : attempt.Serves content)
    (fault : attempt.fault = none)
    (unknown : Keyed.get? attempt.request.url downloads.files = none) :
    ∃ path, Download.path? downloads.cacheDir attempt.request.url = some path ∧
      (downloads.step attempt).1 = .ok (attempt.file path content) ∧
      Keyed.get? attempt.request.url (downloads.step attempt).2.files =
        some (attempt.file path content) ∧
      Keyed.get? path (downloads.step attempt).2.stored = some content := by
  rcases Download.get?_cases attempt downloads.cacheDir with
    ⟨hunserved, -⟩ | ⟨path, body, hserved, hplace, hget⟩
  · exact absurd hunserved served.not_unserved
  · obtain rfl : body = content := hserved.unique served
    have hstep : downloads.step attempt =
        (downloads.asking attempt.request.url).store attempt.request.url
          (attempt.file path body) body
          none := by
      rw [step, unknown]
      dsimp only
      rw [hget, fault]
    rw [hstep]
    exact ⟨path, hplace, rfl, Keyed.get?_set_self _ _ _, Keyed.get?_set_self _ _ _⟩

/-- A server is asked for a file that is not known. -/
theorem asked_step_of_unknown (unknown : Keyed.get? attempt.request.url downloads.files = none) :
    (downloads.step attempt).2.asked = downloads.asked ++
      (Url.parse? attempt.request.url).toList := by
  have houtcome := outcome_step downloads attempt
  generalize downloads.step attempt = result at houtcome
  cases houtcome with
  | known found =>
    rw [unknown] at found
    cases found
  | unserved unknown hunserved => rfl
  | faulty unknown served fault place left => rfl
  | stored unknown served fault place => rfl

/-- **Other addresses** are as known as before. -/
theorem files_step_of_ne (hne : url ≠ attempt.request.url) :
    Keyed.get? url (downloads.step attempt).2.files = Keyed.get? url downloads.files := by
  have h := outcome_step downloads attempt
  generalize downloads.step attempt = result at h
  cases h with
  | known found => rfl
  | unserved unknown hunserved => rfl
  | faulty unknown served fault place left => rfl
  | stored unknown served fault place => exact Keyed.get?_set_of_ne hne _ _

/-- **Other files** hold what they held. -/
theorem stored_step_of_ne
    (hne : Download.path? downloads.cacheDir attempt.request.url ≠ some path) :
    Keyed.get? path (downloads.step attempt).2.stored = Keyed.get? path downloads.stored := by
  have hother : ∀ {own : String},
      Download.path? downloads.cacheDir attempt.request.url = some own → path ≠ own := by
    rintro own place rfl
    exact hne place
  have h := outcome_step downloads attempt
  generalize downloads.step attempt = result at h
  cases h with
  | known found => rfl
  | unserved unknown hunserved => rfl
  | faulty unknown served fault place left =>
    rcases left with rfl | ⟨content, rfl⟩
    · rfl
    · exact Keyed.get?_set_of_ne (hother place) _ _
  | stored unknown served fault place => exact Keyed.get?_set_of_ne (hother place) _ _

/-- A file that is known stays known, and a request for it changes nothing. -/
theorem step_of_known {file : FileNode}
    (h : Keyed.get? attempt.request.url downloads.files = some file) :
    downloads.step attempt = (.ok { file with parentNodeId := attempt.request.parentNodeId },
      downloads) := by
  rw [step, h]

/-- A success makes its file known. -/
theorem exists_known_of_ok {file : FileNode} (h : (downloads.step attempt).1 = .ok file) :
    ∃ known : FileNode, Keyed.get? attempt.request.url (downloads.step attempt).2.files =
      some known ∧
      file = { known with parentNodeId := attempt.request.parentNodeId } := by
  have houtcome := outcome_step downloads attempt
  generalize downloads.step attempt = result at h houtcome
  cases houtcome with
  | known found =>
    cases h
    exact ⟨_, found, rfl⟩
  | unserved unknown hunserved => cases h
  | faulty unknown served fault place left => cases h
  | stored unknown served fault place =>
    cases h
    exact ⟨_, Keyed.get?_set_self _ _ _, rfl⟩

/-- Known files stay known whatever is requested. -/
theorem known_step {file : FileNode} (h : Keyed.get? url downloads.files = some file) :
    Keyed.get? url (downloads.step attempt).2.files = some file := by
  by_cases hsame : url = attempt.request.url
  · rw [hsame] at h ⊢
    rw [step_of_known h]
    exact h
  · rw [files_step_of_ne hsame]
    exact h

/-! ### Runs -/

theorem run_cons (downloads : Downloads) (attempt : Attempt) (rest : List Attempt) :
    downloads.run (attempt :: rest) =
      ((downloads.step attempt).1 :: ((downloads.step attempt).2.run rest).1,
        ((downloads.step attempt).2.run rest).2) := rfl

@[simp] theorem cacheDir_run (downloads : Downloads) (attempts : List Attempt) :
    (downloads.run attempts).2.cacheDir = downloads.cacheDir := by
  induction attempts generalizing downloads with
  | nil => rfl
  | cons attempt rest ih =>
    rw [run_cons]
    exact (ih _).trans (cacheDir_step downloads attempt)

/-- **Known files stay known** in a run. -/
theorem known_run {file : FileNode} (h : Keyed.get? url downloads.files = some file)
    (attempts : List Attempt) :
    Keyed.get? url (downloads.run attempts).2.files = some file := by
  induction attempts generalizing downloads with
  | nil => exact h
  | cons attempt rest ih =>
    rw [run_cons]
    exact ih (known_step h)

/-! ### Places of files -/

/-- Files are known and stored at the places of requested addresses. -/
structure Sound (requested : List String) (downloads : Downloads) : Prop where
  known : ∀ url file, Keyed.get? url downloads.files = some file →
    url ∈ requested ∧ file.url = url ∧ file.id = Digest.hexSha256 url ∧
      Download.path? downloads.cacheDir url = some file.path
  kept : ∀ url file, Keyed.get? url downloads.files = some file →
    ∃ content, Keyed.get? file.path downloads.stored = some content
  stored : ∀ path content, Keyed.get? path downloads.stored = some content →
    ∃ url ∈ requested, Download.path? downloads.cacheDir url = some path

/-- Nothing is known at first. -/
theorem sound_initial (cacheDir : String) (requested : List String) :
    Sound requested { cacheDir } where
  known _ _ h := by cases h
  kept _ _ h := by cases h
  stored _ _ h := by cases h

variable {requested : List String}

/-- Writing the place of a requested address. -/
theorem Sound.write (h : Sound requested downloads) (hurl : url ∈ requested)
    (place : Download.path? downloads.cacheDir url = some path) (content : List UInt8) :
    Sound requested { downloads with stored := Keyed.set path content downloads.stored } where
  known := h.known
  kept other file hfile := by
    obtain ⟨found, hfound⟩ := h.kept other file hfile
    by_cases hsame : file.path = path
    · exact ⟨content, hsame ▸ Keyed.get?_set_self _ _ _⟩
    · exact ⟨found, (Keyed.get?_set_of_ne hsame _ _).trans hfound⟩
  stored other found hfound := by
    by_cases hsame : other = path
    · exact ⟨url, hurl, hsame ▸ place⟩
    · rw [Keyed.get?_set_of_ne hsame] at hfound
      exact h.stored other found hfound

/-- Remembering a file that is stored at the place of its requested address. -/
theorem Sound.remember {file : FileNode} (h : Sound requested downloads)
    (hurl : file.url ∈ requested) (hid : file.id = Digest.hexSha256 file.url)
    (place : Download.path? downloads.cacheDir file.url = some file.path)
    (hkept : ∃ content, Keyed.get? file.path downloads.stored = some content) :
    Sound requested { downloads with files := Keyed.set file.url file downloads.files } where
  known url other hother := by
    by_cases hsame : url = file.url
    · rw [hsame, Keyed.get?_set_self, Option.some.injEq] at hother
      rw [hsame, ← hother]
      exact ⟨hurl, rfl, hid, place⟩
    · rw [Keyed.get?_set_of_ne hsame] at hother
      exact h.known url other hother
  kept url other hother := by
    by_cases hsame : url = file.url
    · rw [hsame, Keyed.get?_set_self, Option.some.injEq] at hother
      rw [← hother]
      exact hkept
    · rw [Keyed.get?_set_of_ne hsame] at hother
      exact h.kept url other hother
  stored := h.stored

theorem Sound.step (h : Sound requested downloads) (hurl : attempt.request.url ∈ requested) :
    Sound requested (downloads.step attempt).2 := by
  have houtcome := outcome_step downloads attempt
  generalize downloads.step attempt = result at houtcome
  cases houtcome with
  | known found => exact h
  | unserved unknown hunserved => exact ⟨h.known, h.kept, h.stored⟩
  | faulty unknown served fault place left =>
    rcases left with rfl | ⟨content, rfl⟩
    · exact ⟨h.known, h.kept, h.stored⟩
    · have hwritten := h.write hurl place content
      exact ⟨hwritten.known, hwritten.kept, hwritten.stored⟩
  | @stored path content unknown served fault place =>
    have hid : (attempt.file path content).id = Digest.hexSha256 (attempt.file path content).url :=
      rfl
    have hkept :
        ∃ found, Keyed.get? (attempt.file path content).path
          (Keyed.set path content downloads.stored) =
        some found := ⟨content, Keyed.get?_set_self _ _ _⟩
    have hremembered := (h.write hurl place content).remember hurl hid place hkept
    exact ⟨hremembered.known, hremembered.kept, hremembered.stored⟩

/-- **Every run is sound** for the addresses that it requests. -/
theorem Sound.run {attempts : List Attempt} (h : Sound requested downloads)
    (hurls : ∀ attempt ∈ attempts, attempt.request.url ∈ requested) : Sound requested
      (downloads.run attempts).2 := by
  induction attempts generalizing downloads with
  | nil => exact h
  | cons attempt rest ih =>
    rw [run_cons]
    exact ih (h.step (hurls attempt List.mem_cons_self)) fun later hlater =>
      hurls later (List.mem_cons_of_mem _ hlater)

/-! ### One address in a run -/

/-- Two states of knowledge that are the same as far as one address is concerned. -/
structure Alike (url : String) (a b : Downloads) : Prop where
  cacheDir : a.cacheDir = b.cacheDir
  known : Keyed.get? url a.files = Keyed.get? url b.files

variable {a b : Downloads}

/-- A request for the address is answered alike, and writes alike. -/
theorem Alike.step (h : Alike attempt.request.url a b) :
    (a.step attempt).1 = (b.step attempt).1 ∧
      Alike attempt.request.url (a.step attempt).2 (b.step attempt).2 ∧
      ∀ path, Keyed.get? path a.stored = Keyed.get? path b.stored →
        Keyed.get? path (a.step attempt).2.stored = Keyed.get? path (b.step attempt).2.stored := by
  rw [Downloads.step, Downloads.step, ← h.known, ← h.cacheDir]
  cases Keyed.get? attempt.request.url a.files with
  | some file => exact ⟨rfl, h, fun _ hsame => hsame⟩
  | none =>
    dsimp only
    cases Download.get? attempt.client a.cacheDir attempt.request with
    | error e => exact ⟨rfl, ⟨h.cacheDir, h.known⟩, fun _ hsame => hsame⟩
    | ok downloaded =>
      have hput : ∀ content path, Keyed.get? path a.stored = Keyed.get? path b.stored →
          Keyed.get? path (Keyed.set downloaded.1.path content a.stored) =
            Keyed.get? path (Keyed.set downloaded.1.path content b.stored) := by
        intro content path hsame
        rw [Keyed.get?_set, Keyed.get?_set, hsame]
      match attempt.fault with
      | some .directory =>
        refine ⟨?_, ⟨h.cacheDir, h.known⟩, fun _ hsame => hsame⟩
        show Except.error (DownloadError.uncreated a.cacheDir) = .error (.uncreated b.cacheDir)
        rw [h.cacheDir]
      | some (.file none) => exact ⟨rfl, ⟨h.cacheDir, h.known⟩, fun _ hsame => hsame⟩
      | some (.file (some left)) => exact ⟨rfl, ⟨h.cacheDir, h.known⟩, hput left⟩
      | none => exact ⟨rfl, ⟨h.cacheDir, by simp [asking, store]⟩, hput downloaded.2⟩

/-- A request for another address makes no difference. -/
theorem Alike.skip (h : Alike url a b) (hne : url ≠ attempt.request.url) :
    Alike url (a.step attempt).2 b :=
  ⟨(cacheDir_step a attempt).trans h.cacheDir, (files_step_of_ne hne).trans h.known⟩

/-- The answers of a run to the requests for an address. -/
def answersFor (url : String) (downloads : Downloads) (attempts : List Attempt) :
    List (Except DownloadError FileNode) :=
  ((attempts.zip (downloads.run attempts).1).filter fun answered =>
    answered.1.request.url = url).map Prod.snd

/-- **The requests for an address alone** are answered as in a run with others between them. -/
theorem Alike.run (h : Alike url a b) (attempts : List Attempt) :
    answersFor url a attempts = (b.run (attempts.filter fun attempt =>
      attempt.request.url = url)).1 ∧
      Alike url (a.run attempts).2
        (b.run (attempts.filter fun attempt => attempt.request.url = url)).2 := by
  induction attempts generalizing a b with
  | nil => exact ⟨rfl, h⟩
  | cons attempt rest ih =>
    rw [answersFor, run_cons, List.zip_cons_cons]
    by_cases hsame : attempt.request.url = url
    · subst hsame
      obtain ⟨hanswer, hnext, -⟩ := h.step
      obtain ⟨hanswers, hlast⟩ := ih hnext
      rw [List.filter_cons_of_pos (by simp), List.filter_cons_of_pos (by simp), run_cons,
        List.map_cons]
      exact ⟨List.cons_eq_cons.mpr ⟨hanswer, hanswers⟩, hlast⟩
    · rw [List.filter_cons_of_neg (by simpa using hsame),
        List.filter_cons_of_neg (by simpa using hsame)]
      exact ih (h.skip (Ne.symm hsame))

/-- **The file of an address** is written by the requests for it alone, unless another address has
its place. -/
theorem Alike.stored_run (h : Alike url a b) {attempts : List Attempt}
    (own : ∀ attempt ∈ attempts, Download.path? a.cacheDir attempt.request.url = some path →
      attempt.request.url = url)
    (hsame : Keyed.get? path a.stored = Keyed.get? path b.stored) :
    Keyed.get? path (a.run attempts).2.stored =
      Keyed.get? path (b.run (attempts.filter fun attempt =>
        attempt.request.url = url)).2.stored := by
  induction attempts generalizing a b with
  | nil => exact hsame
  | cons attempt rest ih =>
    have ownLater :
        ∀ later ∈ rest, Download.path? (a.step attempt).2.cacheDir later.request.url = some path →
        later.request.url = url := by
      intro later hlater hplace
      rw [cacheDir_step] at hplace
      exact own later (List.mem_cons_of_mem _ hlater) hplace
    rw [run_cons]
    by_cases hurl : attempt.request.url = url
    · subst hurl
      obtain ⟨-, hnext, hwrites⟩ := h.step
      rw [List.filter_cons_of_pos (by simp), run_cons]
      exact ih hnext ownLater (hwrites path hsame)
    · rw [List.filter_cons_of_neg (by simpa using hurl)]
      have hplace : Download.path? a.cacheDir attempt.request.url ≠ some path := fun hplace =>
        hurl (own attempt List.mem_cons_self hplace)
      exact ih (h.skip (Ne.symm hurl)) ownLater ((stored_step_of_ne hplace).trans hsame)

/-! ### Runs of requests -/

/-- **Runs of a fetcher.**  After any requests that start from nothing:

* once a request has succeeded, every later one for the same text asks no server and is answered
  with the same file and its own parent;
* a request fails only when it brings no file or the disk refuses it; a failure makes nothing known
  and, unless the disk is at fault, writes nothing, so that the next request asks again;
* a request whose file is not known does fail then: when its text is no address, when no server
  answers, when the status of the answer is from 400 to 599, or when the disk refuses the file;
* the body of an answer of any other status, one of redirection as well as one of success, is stored
  in the file's place and the file is known from then on;
* the answers for an address and its file are those of its own requests alone, the file as long as
  no other requested address has the same digest;
* what is stored lies directly in the cache directory, under a name made of the digest of a
  requested address; so does the file of each known address, and known files that share a place
  share a digest. -/
theorem fetcher_runs (cacheDir : String) (before : List Attempt) :
    let initial : Downloads := { cacheDir }
    let downloads := (initial.run before).2
    (∀ attempt file, (downloads.step attempt).1 = .ok file →
      ∀ middle later, later.request.url = attempt.request.url →
        let known := ((downloads.step attempt).2.run middle).2
        known.step later = (.ok { file with parentNodeId := later.request.parentNodeId }, known)) ∧
    (∀ attempt e, (downloads.step attempt).1 = .error e →
      let next := (downloads.step attempt).2
      (attempt.Unserved ∨ attempt.fault ≠ none) ∧ next.files = downloads.files ∧
        (attempt.Unserved → next.stored = downloads.stored) ∧
        ∀ later, later.request.url = attempt.request.url →
          (next.step later).1 = (initial.step later).1 ∧
            (next.step later).2.asked = next.asked ++ (Url.parse? attempt.request.url).toList) ∧
    (∀ attempt : Attempt, Keyed.get? attempt.request.url downloads.files = none →
      ((∃ e, (downloads.step attempt).1 = .error e) ↔ attempt.Unserved ∨ attempt.fault ≠ none)) ∧
    (∀ (attempt : Attempt) (content : List UInt8), attempt.Serves content → attempt.fault = none →
      Keyed.get? attempt.request.url downloads.files = none →
        let next := (downloads.step attempt).2
        ∃ path, Download.path? cacheDir attempt.request.url = some path ∧
          (downloads.step attempt).1 = .ok (attempt.file path content) ∧
          Keyed.get? attempt.request.url next.files = some (attempt.file path content) ∧
          Keyed.get? path next.stored = some content) ∧
    (∀ url, let alone := initial.run (before.filter fun attempt => attempt.request.url = url)
      answersFor url initial before = alone.1 ∧
        Keyed.get? url downloads.files = Keyed.get? url alone.2.files ∧
        ((∀ attempt ∈ before, Digest.hexSha256 attempt.request.url = Digest.hexSha256 url →
            attempt.request.url = url) →
          ∀ path, Download.path? cacheDir url = some path →
            Keyed.get? path downloads.stored = Keyed.get? path alone.2.stored)) ∧
    (∀ path content, Keyed.get? path downloads.stored = some content →
      ∃ attempt ∈ before, ∃ name, path = joinPath cacheDir name ∧ '/' ∉ name.toList ∧
        Download.IsCacheName attempt.request.url name ∧
        (Digest.hexSha256 attempt.request.url).toList.length = 64 ∧
        ∀ c ∈ (Digest.hexSha256 attempt.request.url).toList, Digest.IsHexDigit c) ∧
    (∀ url file, Keyed.get? url downloads.files = some file →
      file.id = Digest.hexSha256 url ∧
        (∃ name, Download.IsCacheName url name ∧ file.path = joinPath cacheDir name) ∧
        ∃ content, Keyed.get? file.path downloads.stored = some content) ∧
    ∀ url other file otherFile, Keyed.get? url downloads.files = some file →
      Keyed.get? other downloads.files = some otherFile → file.path = otherFile.path →
        Digest.hexSha256 url = Digest.hexSha256 other := by
  intro initial downloads
  have hcacheDir : downloads.cacheDir = cacheDir := cacheDir_run initial before
  have hsound : Sound (before.map fun attempt => attempt.request.url) downloads :=
    (sound_initial cacheDir _).run fun attempt hattempt => List.mem_map_of_mem hattempt
  refine ⟨?_, ?_, ?_, ?_, ?_, ?_, ?_, ?_⟩
  · intro attempt file hok middle later hurl known
    obtain ⟨first, hfirst, rfl⟩ := exists_known_of_ok hok
    rw [← hurl] at hfirst
    show known.step later = (.ok { first with parentNodeId := later.request.parentNodeId }, known)
    exact step_of_known (known_run hfirst middle)
  · intro attempt e herror next
    obtain ⟨hunknown, hreason, hfiles, hstored⟩ := failure_of_error herror
    refine ⟨hreason, hfiles, hstored, fun later hurl => ?_⟩
    have hnext : Keyed.get? later.request.url next.files = none := by
      rw [hurl]
      exact (congrArg (Keyed.get? attempt.request.url) hfiles).trans hunknown
    have halike : Alike later.request.url next initial :=
      ⟨(cacheDir_step downloads attempt).trans hcacheDir, hnext⟩
    rw [← hurl]
    exact ⟨halike.step.1, asked_step_of_unknown hnext⟩
  · exact fun attempt hunknown => exists_error_iff hunknown
  · intro attempt content hserved hfault hunknown next
    rw [← hcacheDir]
    exact exists_stored_of_serves hserved hfault hunknown
  · intro url alone
    have halike : Alike url initial initial := ⟨rfl, rfl⟩
    obtain ⟨hanswers, hlast⟩ := halike.run before
    refine ⟨hanswers, hlast.known, fun hdigests path hpath => halike.stored_run ?_ rfl⟩
    intro attempt hattempt hplace
    exact hdigests attempt hattempt (Download.hexSha256_eq_of_path? hplace hpath)
  · intro path content hstored
    obtain ⟨url, hurl, hplace⟩ := hsound.stored path content hstored
    obtain ⟨attempt, hattempt, rfl⟩ := List.mem_map.mp hurl
    obtain ⟨name, hname, hpath⟩ := Download.exists_name_of_path? hplace
    rw [hcacheDir] at hpath
    exact ⟨attempt, hattempt, name, hpath, hname.slash_not_mem, hname, Digest.length_hexSha256 _,
      fun c hc => Digest.isHexDigit_of_mem_hexSha256 hc⟩
  · intro url file hfile
    obtain ⟨-, -, hid, hplace⟩ := hsound.known url file hfile
    rw [hcacheDir] at hplace
    exact ⟨hid, Download.exists_name_of_path? hplace, hsound.kept url file hfile⟩
  · intro url other file otherFile hfile hother hsame
    obtain ⟨-, -, -, hplace⟩ := hsound.known url file hfile
    obtain ⟨-, -, -, hotherPlace⟩ := hsound.known other otherFile hother
    rw [← hsame] at hotherPlace
    exact Download.hexSha256_eq_of_path? hplace hotherPlace

/-- A request for a logo whose server answers with some status and body. -/
def logoAttempt (status : Nat) (body : List UInt8) (parent : String) : Attempt where
  request := ⟨"http://[::1]/logo.svg", parent⟩
  client := { send := fun _ => .ok ⟨status, body⟩, refusal := fun _ _ => "refused" }

/-- The file of the logo, under the digest of its address. -/
def logoFile (size : Nat) (parent : String) : FileNode where
  id := "92644e078958660c31a42cbfc5eb32f32e932b35379d2fd4c53a86d3efc2a781"
  parentNodeId := parent
  url := "http://[::1]/logo.svg"
  path := "cache/92644e078958660c31a42cbfc5eb32f32e932b35379d2fd4c53a86d3efc2a781.svg"
  size := size

/-- A logo that was refused once and then sent is kept under its digest, and answered to every later
parent whatever its server answers then. -/
theorem fetcher_runs_logo :
    let refused := (({ cacheDir := "cache" } : Downloads).run [logoAttempt 404 [] "home"]).2
    let known :=
      ((refused.step (logoAttempt 200 [1, 2] "home")).2.run [logoAttempt 404 [] "home"]).2
    (refused.step (logoAttempt 200 [1, 2] "home")).1 = .ok (logoFile 2 "home") ∧
      known.step (logoAttempt 404 [] "about") = (.ok (logoFile 2 "about"), known) := by
  intro refused known
  have hok : (refused.step (logoAttempt 200 [1, 2] "home")).1 = .ok (logoFile 2 "home") := by
    decide +kernel
  obtain ⟨hlater, -⟩ := fetcher_runs "cache" [logoAttempt 404 [] "home"]
  exact ⟨hok, hlater _ _ hok [logoAttempt 404 [] "home"] (logoAttempt 404 [] "about") rfl⟩

/-- An answer that is no success is taken for the file: a server that says that nothing has changed
sends no content, the empty content is stored, and the next request is answered with it although the
server would send the logo now. -/
theorem unchanged_answer_is_stored :
    let first := ({ cacheDir := "cache" } : Downloads).step (logoAttempt 304 [] "home")
    first.1 = .ok (logoFile 0 "home") ∧
      Keyed.get? (logoFile 0 "home").path first.2.stored = some [] ∧
      first.2.step (logoAttempt 200 [1, 2] "about") = (.ok (logoFile 0 "about"), first.2) := by
  decide +kernel

end Downloads

end ContentGraph
