/-
# Media types

The content type that a file is served with, by the extension of its name.
-/
import Gatehouse.Disk.Location

namespace Gatehouse
namespace Disk

/-- Content types by extension, in lower case. -/
def mediaTypes : List (String × String) := [
  ("html", "text/html; charset=utf-8"), ("htm", "text/html; charset=utf-8"),
  ("css", "text/css; charset=utf-8"),
  ("js", "text/javascript; charset=utf-8"), ("mjs", "text/javascript; charset=utf-8"),
  ("json", "application/json"), ("map", "application/json"),
  ("xml", "application/xml"),
  ("txt", "text/plain; charset=utf-8"),
  ("csv", "text/csv; charset=utf-8"),
  ("md", "text/markdown; charset=utf-8"),
  ("png", "image/png"),
  ("jpg", "image/jpeg"), ("jpeg", "image/jpeg"),
  ("gif", "image/gif"),
  ("svg", "image/svg+xml"),
  ("webp", "image/webp"),
  ("ico", "image/x-icon"),
  ("woff", "font/woff"),
  ("woff2", "font/woff2"),
  ("ttf", "font/ttf"),
  ("pdf", "application/pdf"),
  ("zip", "application/zip"),
  ("gz", "application/gzip"),
  ("wasm", "application/wasm"),
  ("webmanifest", "application/manifest+json")]

/-- The content type of a file whose extension says nothing. -/
def unknownMedia : String := "application/octet-stream"

/-- The content type of the file at a location.  Case does not matter, and lowering ASCII letters
is enough: beyond them, only the Kelvin sign becomes a single ASCII letter in lower case, and no
extension of the table has a `k`. -/
def mediaType (p : String) : String :=
  match extension? p with
  | none => unknownMedia
  | some e => (mediaTypes.lookup (e.map Char.toLower)).getD unknownMedia

end Disk
end Gatehouse
