import ContentGraph.Digest
import ContentGraph.Download.Url
import ContentGraph.Environment
import ContentGraph.FileTree

/-!
# Downloads

Remote files are kept in a cache directory under the digest of their address.  What was downloaded
once is not downloaded again; a download that failed is tried again when it is next asked for.

* `Download.fileName` — the name of a file in the cache;
* `Download.get?` — one download;
* `Downloads.store` — a download put into the cache, as far as the disk permits;
* `Downloads.step`, `Downloads.run` — the answers to one request and to several, and what is known
  afterwards.
-/

namespace ContentGraph

/-- What a server answers. -/
structure Response where
  status : Nat
  body : List UInt8
  deriving DecidableEq, Repr

/-- The HTTP client of the host.  What went wrong it tells in words of its own. -/
structure Client where
  /-- The answer to a request for an address, or the report that there is none. -/
  send : Url → Except String Response
  /-- The report that an address is refused with a status. -/
  refusal : Url → Nat → String

/-- Why a file could not be downloaded. -/
inductive DownloadError
  /-- The text is no address. -/
  | invalidUrl (text : String)
  /-- No server answered. -/
  | unreachable (report : String)
  /-- The server refused. -/
  | refused (report : String)
  /-- The cache directory cannot be made. -/
  | uncreated (directory : String)
  /-- The file cannot be written. -/
  | unwritten (path : String)
  deriving DecidableEq, Repr

/-- What an error reports. -/
def DownloadError.message : DownloadError → String
  | .invalidUrl text => "invalid URL " ++ text
  | .unreachable report => report
  | .refused report => report
  | .uncreated directory => "creating " ++ directory
  | .unwritten path => "writing " ++ path

/-- What keeps a file from being stored. -/
inductive DiskFault
  /-- The cache directory cannot be made. -/
  | directory
  /-- The file cannot be written to its end; what it holds then, if the write changed it. -/
  | file (left : Option (List UInt8))
  deriving DecidableEq, Repr

namespace Download

/-- The client of a machine without a network. -/
def offline : Client where
  send _ := .error "no network"
  refusal _ _ := "refused"

/-! ### Names of files -/

/-- The text after the last point of a text that has one. -/
def afterLastPoint? (text : List Char) : Option (List Char) :=
  if text.contains '.' then some (text.reverse.takeWhile (· ≠ '.')).reverse else none

/-- The extension that a file keeps: one to five ASCII letters or digits after the last point of its
path. -/
def extension? (url : Url) : Option String :=
  match url.lastSegment? with
  | none => none
  | some segment =>
    match afterLastPoint? segment.toList with
    | none => none
    | some extension =>
      if extension ≠ [] && extension.length ≤ 5 && extension.all Text.isAsciiAlphanumeric then
        some (String.ofList (extension.map Char.toLower))
      else none

/-- The name of a file with an id in the cache. -/
def fileName (id : String) (url : Url) : String :=
  match extension? url with
  | some extension => id ++ "." ++ extension
  | none => id

/-- A name is the id, or the id with a point and an extension. -/
theorem fileName_eq (id : String) (url : Url) :
    fileName id url = id ∨
      ∃ extension, extension? url = some extension ∧ fileName id url = id ++ "." ++ extension := by
  unfold fileName
  cases h : extension? url with
  | none => exact Or.inl rfl
  | some extension => exact Or.inr ⟨extension, rfl, rfl⟩

/-! ### Single downloads -/

/-- Whether a status says that the request failed.  All others, of redirections too, count as
answers. -/
def isFailure (status : Nat) : Bool := 400 ≤ status && status ≤ 599

theorem isFailure_iff {status : Nat} : isFailure status = true ↔ 400 ≤ status ∧ status ≤ 599 := by
  simp [isFailure]

/-- One download into a cache directory: the file and its content. -/
def get? (client : Client) (cacheDir : String) (request : FetchRequest) :
    Except DownloadError (FileNode × List UInt8) :=
  match Url.parse? request.url with
  | none => .error (.invalidUrl request.url)
  | some url =>
    match client.send url with
    | .error report => .error (.unreachable report)
    | .ok response =>
      if isFailure response.status then .error (.refused (client.refusal url response.status))
      else
        let id := Digest.hexSha256 request.url
        let file : FileNode :=
          { id
            parentNodeId := request.parentNodeId
            url := request.url
            path := joinPath cacheDir (fileName id url)
            size := response.body.length }
        .ok (file, response.body)

end Download

/-- What a cache directory is known to hold. -/
structure Downloads where
  cacheDir : String
  /-- The files by the texts of their addresses. -/
  files : List (String × FileNode) := []
  /-- The contents by the paths of the files. -/
  stored : List (String × List UInt8) := []
  /-- The addresses that servers were asked for, in order. -/
  asked : List Url := []
  deriving DecidableEq, Repr

/-- A request, with what its client brings and what its disk refuses. -/
structure Attempt where
  request : FetchRequest
  client : Client
  fault : Option DiskFault := none

namespace Downloads

/-- What is known once a server was asked for an address, if the text is one. -/
def asking (downloads : Downloads) (url : String) : Downloads :=
  { downloads with asked := downloads.asked ++ (Url.parse? url).toList }

/-- A downloaded file put into the cache.  It is known once it is written to its end. -/
def store (downloads : Downloads) (url : String) (file : FileNode) (content : List UInt8) :
    Option DiskFault → Except DownloadError FileNode × Downloads
  | some .directory => (.error (.uncreated downloads.cacheDir), downloads)
  | some (.file none) => (.error (.unwritten file.path), downloads)
  | some (.file (some left)) =>
    (.error (.unwritten file.path),
      { downloads with stored := Keyed.set file.path left downloads.stored })
  | none =>
    (.ok file,
      { downloads with
        files := Keyed.set url file downloads.files
        stored := Keyed.set file.path content downloads.stored })

/-- The answer to a request, and what is known afterwards.  A known file is answered with the parent
that now asks for it. -/
def step (downloads : Downloads) (attempt : Attempt) : Except DownloadError FileNode × Downloads :=
  let request := attempt.request
  match Keyed.get? request.url downloads.files with
  | some file => (.ok { file with parentNodeId := request.parentNodeId }, downloads)
  | none =>
    match Download.get? attempt.client downloads.cacheDir request with
    | .error e => (.error e, downloads.asking request.url)
    | .ok (file, content) =>
      (downloads.asking request.url).store request.url file content attempt.fault

/-- The answer to a request when the disk refuses nothing. -/
def fetch (downloads : Downloads) (client : Client) (request : FetchRequest) :
    Except DownloadError FileNode × Downloads :=
  downloads.step { request, client }

/-- The answers to requests in order, and what is known afterwards. -/
def run (downloads : Downloads) : List Attempt → List (Except DownloadError FileNode) × Downloads
  | [] => ([], downloads)
  | attempt :: rest =>
    let (answer, next) := downloads.step attempt
    let (answers, last) := next.run rest
    (answer :: answers, last)

end Downloads

end ContentGraph
