import Testbook.FilePath

/-! Media types by the extension of a file name. -/

set_option autoImplicit false

namespace Testbook.MediaType

def ofExtension : List (String × String) :=
  [("png", "image/png"), ("jpg", "image/jpeg"), ("jpeg", "image/jpeg"), ("gif", "image/gif"),
    ("webp", "image/webp"), ("svg", "image/svg+xml"), ("mp4", "video/mp4"), ("webm", "video/webm"),
    ("mov", "video/quicktime"), ("pdf", "application/pdf"), ("json", "application/json"),
    ("zip", "application/zip"), ("txt", "text/plain"), ("log", "text/plain"),
    ("md", "text/markdown"), ("csv", "text/csv"), ("html", "text/html"), ("htm", "text/html")]

def anyBytes : String := "application/octet-stream"

def ofPath (path : String) : String :=
  ((FilePath.extension? path).bind fun e => ofExtension.lookup (Text.lower e)).getD anyBytes

end Testbook.MediaType
