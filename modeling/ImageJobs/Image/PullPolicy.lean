import ImageJobs.Document.Reading
import ImageJobs.Image.Reference

namespace ImageJobs

inductive PullPolicy where
  | always
  | ifNotPresent
  deriving DecidableEq, Repr, Inhabited

namespace PullPolicy

/-- The text of the policy, in containers and in the log. -/
def name : PullPolicy → String
  | .always => "Always"
  | .ifNotPresent => "IfNotPresent"

def default : PullPolicy := .ifNotPresent

/-- The policy with exactly that name; any other text is no policy at all. -/
def parse? (text : String) : Option PullPolicy :=
  if text = "Always" then some .always
  else if text = "IfNotPresent" then some .ifNotPresent
  else none

/-- The policy with which a container pulls the image: one that asks only for presence is raised
for a reference that can name other content later. -/
def raisedFor (policy : PullPolicy) (image : String) : PullPolicy :=
  match policy with
  | .always => .always
  | .ifNotPresent => if isMutableImage image then .always else .ifNotPresent

/-- The identifier that stands for the policy in documents. -/
def identifier : PullPolicy → String
  | .always => "Always"
  | .ifNotPresent => "IfNotPresent"

def choices : List (String × PullPolicy) :=
  [(identifier .always, .always), (identifier .ifNotPresent, .ifNotPresent)]

def read : Reading PullPolicy :=
  Reading.choice choices

def toJson (policy : PullPolicy) : Json :=
  .string policy.identifier

end PullPolicy

end ImageJobs
