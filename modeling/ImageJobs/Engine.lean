import ImageJobs.Text.Basic

namespace ImageJobs

inductive Engine where
  | docker
  | containerd
  | crio
  /-- A version text that names no known engine. -/
  | unknown
  deriving DecidableEq, Repr

/-- How an image is removed: the host socket that has to be reachable, and the line for the shell. -/
structure RemovalCommand where
  socket : String
  line : String
  deriving DecidableEq, Repr

namespace Engine

def all : List Engine :=
  [.docker, .containerd, .crio, .unknown]

def name : Engine → String
  | .docker => "docker"
  | .containerd => "containerd"
  | .crio => "cri-o"
  | .unknown => "unknown"

def named? (text : String) : Option Engine :=
  all.find? fun engine => engine.name == text

/-- The first engine that the version text mentions, in a fixed order of preference. -/
def ofVersion (version : String) : Engine :=
  if Text.mentions version "containerd" then .containerd
  else if Text.mentions version "crio" || Text.mentions version "cri-o" then .crio
  else if Text.mentions version "docker" then .docker
  else .unknown

def dockerSocket : String := "/var/run/docker.sock"

/-- An unknown engine is taken to serve the docker socket. -/
def defaultSocket : Engine → String
  | .containerd => "/run/containerd/containerd.sock"
  | .crio => "/var/run/crio/crio.sock"
  | .docker => dockerSocket
  | .unknown => dockerSocket

/-- The socket given for the node counts for every known engine. -/
def socket (engine : Engine) (given : Option String) : String :=
  match engine with
  | .unknown => dockerSocket
  | engine => given.getD engine.defaultSocket

/-- The image text stands at the end of the line as it is. -/
def removalLine (engine : Engine) (socket image : String) : String :=
  match engine with
  | .containerd | .crio =>
    "/usr/bin/crictl --runtime-endpoint=unix://" ++ socket ++
      " --image-endpoint=unix://" ++ socket ++ " rmi " ++ image
  | .docker => "/usr/bin/docker -H unix://" ++ socket ++ " image rm -f " ++ image
  | .unknown => "/usr/bin/docker image rm -f " ++ image

def removalCommand (engine : Engine) (image : String) (given : Option String) :
    RemovalCommand :=
  let socket := engine.socket given
  ⟨socket, engine.removalLine socket image⟩

end Engine

end ImageJobs
