import Fungi.Lib.Path

/-!
# Directory layout

`FungiPaths` of `crates/config/src/paths.rs`.  The distribution channel is fixed
when the daemon is built.
-/

namespace Fungi.Config

open Fungi.Lib

/-- The channel through which a build is distributed. -/
inductive DistChannel where
  | nightly
  | stable
  deriving DecidableEq

/-- The user's directory has a name of its own for each channel. -/
def userRootDirNameForChannel : DistChannel → String
  | .stable => "Fungi"
  | .nightly => "FungiDev"

/-- The two directories that every other path hangs from. -/
structure FungiPaths where
  fungiHome : String
  userRoot : String

namespace FungiPaths

/-- The user's directory stands beside the fungi home. -/
def fromFungiHomeForChannel (fungiHome : String) (channel : DistChannel) : FungiPaths :=
  { fungiHome
    userRoot := Path.join ((Path.parent fungiHome).getD ".") (userRootDirNameForChannel channel) }

/-- The directory that manifests call `USER_HOME`. -/
def userHome (self : FungiPaths) : String := Path.join self.userRoot "workspace"

/-- Where the manifests and the state of the services are kept. -/
def servicesRoot (self : FungiPaths) : String := Path.join self.fungiHome "services"

/-- Where the services keep their data. -/
def appdataRoot (self : FungiPaths) : String := Path.join self.fungiHome "appdata"

/-- One directory of data for each service stands here. -/
def serviceAppdataRoot (self : FungiPaths) : String := Path.join self.appdataRoot "services"

/-- The data of a service. -/
def serviceAppdataDir (self : FungiPaths) (localServiceId : String) : String :=
  Path.join self.serviceAppdataRoot localServiceId

/-- Where the downloaded components of services are kept. -/
def artifactsRoot (self : FungiPaths) : String := Path.join self.fungiHome "artifacts"

/-- One directory of artifacts for each service stands here. -/
def serviceArtifactsRoot (self : FungiPaths) : String := Path.join self.artifactsRoot "services"

/-- The artifacts of a service. -/
def serviceArtifactsDir (self : FungiPaths) (localServiceId : String) : String :=
  Path.join self.serviceArtifactsRoot localServiceId

end FungiPaths

end Fungi.Config
