import ClusterAudit.Text.Split

/-!
# Image references

An image reference is a path with an optional host and port in front, an optional tag after a colon
in its last segment, and an optional digest after an at sign. Neither the port nor the digest is
taken for a tag.
-/

namespace ClusterAudit.Image

/-- The tag of an image reference, if it has one. -/
def tag? (image : String) : Option String :=
  (Text.split? ':' (Text.afterLast '/' (Text.before '@' image))).map (·.2)

/-- Whether a digest pins the image. -/
def isPinned (image : String) : Bool := image.toList.contains '@'

end ClusterAudit.Image
