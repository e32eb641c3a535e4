/-! A file that holds one document and is always rewritten as a whole. -/
namespace HamLogger

inductive SavedFile (Document : Type) where
  | absent
  | unreadable
  | holds (document : Document)

/-- How rewriting the file goes. A write that stops midway leaves a text that is
no document. -/
inductive SaveOutcome where
  | completes | fails | stopsMidway
  deriving DecidableEq

namespace SavedFile
variable {Document : Type}

def load (file : SavedFile Document) (whenAbsent whenUnreadable : Document) : Document :=
  match file with
  | absent => whenAbsent
  | unreadable => whenUnreadable
  | holds document => document

def save (file : SavedFile Document) (document : Document) : SaveOutcome → SavedFile Document
  | .completes => holds document
  | .fails => file
  | .stopsMidway => unreadable

/-- A save keeps what holds of the document and of the file before it, and of
what is loaded from an unreadable file. -/
theorem load_save {P : Document → Prop} {file : SavedFile Document}
    {document whenAbsent whenUnreadable : Document} {outcome : SaveOutcome}
    (hFile : P (file.load whenAbsent whenUnreadable)) (hDocument : P document)
    (hMidway : outcome = .stopsMidway → P whenUnreadable) :
    P ((file.save document outcome).load whenAbsent whenUnreadable) := by
  cases outcome with
  | completes => exact hDocument
  | fails => exact hFile
  | stopsMidway => exact hMidway rfl

end SavedFile

end HamLogger
