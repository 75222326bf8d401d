import ImageJobs.Text.Basic

/-! Image references: how they fix the content that they name, and the host folder that holds the
files of an image. A reference is judged by the runs of characters in it and is not taken apart into
registry, path, tag and digest. -/

namespace ImageJobs

inductive ReferenceKind where
  /-- Neither a tag nor a digest, which stands for the latest image. -/
  | implicitLatest
  | latest
  /-- Another tag, or a digest. -/
  | pinned
  deriving DecidableEq, Repr

namespace ReferenceKind

def name : ReferenceKind → String
  | .implicitLatest => "ImplicitLatest"
  | .latest => "Latest"
  | .pinned => "Pinned"

def ofImage (image : String) : ReferenceKind :=
  if Text.mentions image ":latest" then .latest
  else if !Text.mentions image ":" && !Text.mentions image "@sha" then .implicitLatest
  else .pinned

/-- Whether such a reference can name other content later. -/
def isMutable : ReferenceKind → Bool
  | .pinned => false
  | _ => true

end ReferenceKind

/-- Whether the reference can name other content later. -/
def isMutableImage (image : String) : Bool :=
  (ReferenceKind.ofImage image).isMutable

namespace Folder

def isKept (char : Char) : Bool :=
  char.isAlphanum || char == '.' || char == '_' || char == '-'

def nameChar (char : Char) : Char :=
  if isKept char then char else '_'

/-- Letters and digits of ASCII, dots, underscores and hyphens stay, and every other character
becomes an underscore. -/
def name (image : String) : String :=
  String.ofList (image.toList.map nameChar)

@[simp] theorem toList_name (image : String) : (name image).toList = image.toList.map nameChar := by
  simp [name]

/-- The path of the folder under a root, whose trailing slashes do not count. -/
def path (root image : String) : String :=
  String.ofList (root.toList.reverse.dropWhile (· == '/')).reverse ++ "/" ++ name image

end Folder

end ImageJobs
