import ImageJobs.Cluster.Node
import ImageJobs.Event
import ImageJobs.Json.Writer
import ImageJobs.Problem

namespace ImageJobs

/-- A request without a recognized policy comes to one that asks only for presence, and that one is
not raised for an image that can change. -/
def PullPolicy.ofRequest (requested : Option PullPolicy) (image : String) : Logged PullPolicy :=
  match requested with
  | some policy => pure (policy.raisedFor image)
  | none => do
    Logged.emit (.policyUnrecognized image)
    return .ifNotPresent

namespace Node

/-- The node's resident images as one document. -/
def residentList (node : Node) : Json :=
  .array (node.residents.map ResidentImage.toJson)

/-- Whether the written list of the resident images mentions the image anywhere. -/
def shows (node : Node) (image : String) : Except Problem Bool :=
  match node.residentList.tryWrite with
  | .ok text => .ok (Text.occurs image.toList text)
  | .error obstacle => .error (.ofKind "ContainerImage" obstacle)

end Node

/-- A pull can be spared only if presence is enough, the reference names fixed content, and the node
shows the image. -/
def pullNeeded (policy : Option PullPolicy) (image : String) (node : Node) :
    Logged (Except Problem Bool) :=
  if policy ≠ some .ifNotPresent then pure (.ok true)
  else if isMutableImage image then pure (.ok true)
  else
    match node.shows image with
    | .error problem => pure (.error problem)
    | .ok present => do
      Logged.emit (.residencyChecked image present)
      return .ok !present

end ImageJobs
