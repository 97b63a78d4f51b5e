import Testbook.Instant.Basic
import Testbook.Text.Lowercase
import Testbook.Text.Blank

/-! Evidence kept with a result: a screenshot, a recording, a document. -/

set_option autoImplicit false

namespace Testbook

inductive AttachmentKind where
  | image
  | video
  | document
  | other
  deriving DecidableEq, Repr

namespace AttachmentKind

def all : List AttachmentKind := [.image, .video, .document, .other]

def name : AttachmentKind → String
  | image => "image"
  | video => "video"
  | document => "document"
  | other => "other"

def ofName? (s : String) : Option AttachmentKind := all.find? (·.name = s)

/-- The kind of a media type: by its first part, in capitals or not. -/
def ofMime (mime : String) : AttachmentKind :=
  let cs := Text.lowerChars (Text.trimChars mime.toList)
  if Text.startsWith "image/".toList cs then image
  else if Text.startsWith "video/".toList cs then video
  else if Text.startsWith "application/".toList cs || Text.startsWith "text/".toList cs then document
  else other

end AttachmentKind

structure Attachment where
  id : String
  name : String
  kind : AttachmentKind
  /-- Where the content is; for an attached file, the content itself. -/
  url : String
  uploadedAt : Instant
  deriving DecidableEq

end Testbook
