import ImageJobs.Text.Quoted
import ImageJobs.Text.Basic

namespace ImageJobs

inductive Strategy where
  /-- Copy the whole file system of the image to the host. -/
  | wholeImage
  /-- Copy only what lies under the listed paths. -/
  | directories (paths : List String)
  /-- Run the image for a moment, so that the node pulls it. -/
  | plainPull
  deriving DecidableEq, Repr

namespace Strategy

/-- Images with this in their name have only some directories copied. -/
def directoryMarker : String := "modelzai"

def directoryPaths : List String := ["/opt/conda/bin/", "/opt/conda/lib/"]

/-- A demand for a full copy comes before the name of the image. -/
def choose (image : String) (copyAll : Bool) : Strategy :=
  if copyAll then .wholeImage
  else if Text.mentions image directoryMarker then .directories directoryPaths
  else .plainPull

def describe : Strategy → String
  | .wholeImage => "FullCache"
  | .directories paths =>
    "DirectoryScopedCache([" ++
      ", ".intercalate (paths.map fun path => String.ofList (Text.quote path.toList)) ++ "])"
  | .plainPull => "CommonPull"

end Strategy

end ImageJobs
