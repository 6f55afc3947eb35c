import SbsServer.CLib.Path
import SbsServer.Common.Numeral

/-!
# Paths that clients name

The file that `serve_preview_file` opens and the place where
`sbs_api_handle_source_upload_asset` stores a file.  A client chooses a part of either.
-/

namespace SbsServer
namespace Api

open CLib

/-- The bytes of a literal. -/
def bytesOf (text : String) : List UInt8 :=
  (CStr.lit text).bytes

/-- What becomes of a request for a file. -/
inductive PreviewAnswer
  | methodNotAllowed
  | refused
  | notFound
  /-- The file is opened; its content has the type `mime`. -/
  | opened (path : List UInt8) (mime : String)
  deriving DecidableEq

/-- The rest of a path below a directory, unless it has `..` in it. -/
def openBelow
    (directory : String)
    (suffix : List UInt8)
    (mime : List UInt8 → String) : PreviewAnswer :=
  let path := bytesOf directory ++ 47 :: suffix
  if [46, 46] <:+: suffix then .refused else .opened path (mime path)

/-- The type of a file of a playlist. -/
def previewMime (path : List UInt8) : String :=
  if bytesOf ".m3u8" <:+ path then "application/vnd.apple.mpegurl"
  else if bytesOf ".ts" <:+ path then "video/mp2t"
  else "application/octet-stream"

/-- `serve_preview_file`. -/
def servePreviewFile (method rawPath : CStr) : PreviewAnswer :=
  let path := rawPath.bytes.takeWhile (· ≠ 63)
  if method ≠ "GET" ∧ method ≠ "HEAD" then .methodNotAllowed
  else if bytesOf "/preview/" <+: path then
    openBelow "/tmp/sbs-preview" (path.drop (bytesOf "/preview/").length) previewMime
  else if bytesOf "/snapshots/" <+: path then
    openBelow "/tmp/sbs-snapshots" (path.drop (bytesOf "/snapshots/").length) fun _ =>
      "image/jpeg"
  else .notFound

theorem resolve_openBelow
    {directory mime : String}
    {suffix path : List UInt8}
    {type : List UInt8 → String}
    (opened : openBelow directory suffix type = .opened path mime) :
    Path.resolve (bytesOf directory) <+: Path.resolve path := by
  unfold openBelow at opened
  split at opened
  · cases opened
  next noUp =>
    cases opened
    exact Path.prefix_resolve_append noUp _

/-- Whatever a client asks for, the file that is opened lies in one of the two directories. -/
theorem served_inside
    {method rawPath : CStr}
    {path : List UInt8}
    {mime : String}
    (opened : servePreviewFile method rawPath = .opened path mime) :
    [bytesOf "tmp", bytesOf "sbs-preview"] <+: Path.resolve path ∨
      [bytesOf "tmp", bytesOf "sbs-snapshots"] <+: Path.resolve path := by
  have preview : Path.resolve (bytesOf "/tmp/sbs-preview") =
      [bytesOf "tmp", bytesOf "sbs-preview"] := by decide +kernel
  have snapshots : Path.resolve (bytesOf "/tmp/sbs-snapshots") =
      [bytesOf "tmp", bytesOf "sbs-snapshots"] := by decide +kernel
  rw [← preview, ← snapshots]
  unfold servePreviewFile at opened
  dsimp only at opened
  split at opened
  · cases opened
  split at opened
  · exact .inl (resolve_openBelow opened)
  split at opened
  · exact .inr (resolve_openBelow opened)
  · cases opened

/-- A segment with a query. -/
theorem served_inside_segment :
    [bytesOf "tmp", bytesOf "sbs-preview"] <+:
        Path.resolve (bytesOf "/tmp/sbs-preview//a/./0.ts") ∨
      [bytesOf "tmp", bytesOf "sbs-snapshots"] <+:
        Path.resolve (bytesOf "/tmp/sbs-preview//a/./0.ts") :=
  @served_inside "GET" "/preview//a/./0.ts?t=1" _ "video/mp2t" (by decide +kernel)

/-- `valid_asset_kind`. -/
def validAssetKind (kind : CStr) : Bool :=
  kind = "image" ∨ kind = "media" ∨ kind = "font"

/-- Bytes that stay in the name of a file. -/
def isNameByte (byte : UInt8) : Bool :=
  (48 ≤ byte ∧ byte ≤ 57) ∨ (65 ≤ byte ∧ byte ≤ 90) ∨ (97 ≤ byte ∧ byte ≤ 122) ∨
    byte = 46 ∨ byte = 45 ∨ byte = 95

/-- `g_path_get_basename`. -/
def pathGetBasename (path : List UInt8) : List UInt8 :=
  if path = [] then [46]
  else if path.all (· = 47) then [47]
  else ((path.reverse.dropWhile (· = 47)).takeWhile (· ≠ 47)).reverse

/-- `sanitize_filename`. -/
def sanitizeFilename (filename : Option CStr) : List UInt8 :=
  let base := ((filename.map fun name => pathGetBasename name.bytes).filter (· ≠ [])).getD
    (bytesOf "upload.bin")
  let out := base.map fun byte => if isNameByte byte then byte else 95
  if out = [] ∨ out = [46] ∨ out = [46, 46] then bytesOf "upload.bin" else out

/-- The name of a stored file: the time of the upload and the name that the client gave. -/
def storedName (stamp : Nat) (filename : Option CStr) : List UInt8 :=
  CStr.decimalBytes stamp ++ 45 :: sanitizeFilename filename

/-- The path of `sbs_api_handle_source_upload_asset`. -/
def uploadPath
    (configDir : List UInt8)
    (kind : CStr)
    (stamp : Nat)
    (filename : Option CStr) : List UInt8 :=
  configDir ++ 47 :: bytesOf "assets" ++ 47 :: kind.bytes ++ 47 :: storedName stamp filename

theorem sanitizeFilename_all (filename : Option CStr) :
    ∀ byte ∈ sanitizeFilename filename, isNameByte byte = true := by
  unfold sanitizeFilename
  dsimp only
  split
  · decide +kernel
  · intro byte member
    obtain ⟨original, _, rfl⟩ := List.mem_map.mp member
    split
    next stays => exact stays
    next => rfl

/-- Whatever name a client gives, its file is stored directly in the directory of its kind
of asset. -/
theorem upload_inside
    {kind : CStr}
    (valid : validAssetKind kind = true)
    (configDir : List UInt8)
    (stamp : Nat)
    (filename : Option CStr) :
    Path.resolve (uploadPath configDir kind stamp filename) =
      Path.resolve configDir ++ [bytesOf "assets", kind.bytes, storedName stamp filename] := by
  have known : Path.Plain kind.bytes := by
    have kinds : kind = "image" ∨ kind = "media" ∨ kind = "font" := of_decide_eq_true valid
    obtain rfl | rfl | rfl := kinds <;> decide +kernel
  have dash : (45 : UInt8) ∈ storedName stamp filename :=
    List.mem_append_right _ (.head _)
  have noSlash : 47 ∉ storedName stamp filename := by
    intro member
    obtain digit | rest := List.mem_append.mp member
    · exact absurd (isDigit_of_mem_decimalBytes digit) (by decide)
    · obtain dash | name := List.mem_cons.mp rest
      · cases dash
      · exact absurd (sanitizeFilename_all filename 47 name) (by decide)
  have plain : Path.Plain (storedName stamp filename) := by
    refine ⟨noSlash, fun member => ?_⟩
    generalize storedName stamp filename = name at *
    simp only [List.mem_cons, List.not_mem_nil, or_false] at member
    obtain rfl | rfl | rfl := member <;> simp at dash
  have assets : Path.Plain (bytesOf "assets") := by decide +kernel
  unfold uploadPath
  rw [plain.resolve_append, known.resolve_append, assets.resolve_append]
  simp

/-- A client names the file of another directory. -/
theorem upload_inside_climbing :
    Path.resolve (uploadPath (bytesOf "/data") "font" 7 (some "../../x.ttf")) =
      Path.resolve (bytesOf "/data") ++ [bytesOf "assets", bytesOf "font", bytesOf "7-x.ttf"] :=
  @upload_inside "font" (by decide +kernel) _ 7 (some "../../x.ttf")

end Api
end SbsServer
