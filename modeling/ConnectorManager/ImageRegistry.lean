import ConnectorManager.Process

namespace ConnectorManager

/-!
# The image manager's registries

The image manager (`aim/src/registry`) keeps connector images in one
repository of a registry: AWS ECR, driven through the `aws` command line, or
Minikube's registry. This module models its settings (`aim/src/env`) and the
ECR credentials the push of a new image asks for.
-/

/-- `Implementation`, as `Implementation::which()` reads it from `IMPLEMENTATION`. -/
inductive Implementation where
  | ecr
  | minikube
  deriving Repr, DecidableEq

/-- What `env` reads: `REGISTRY` and `REPOSITORY` with their defaults (`Env`), the implementation
(`IMPLEMENTATION`, `Minikube` by default), and `AWS_USERNAME`, which only ECR reads. -/
structure Settings where
  registry : String := "registry.kube-system"
  repository : String := "ocf"
  implementation : Implementation := .minikube
  awsUsername : String := ""
  deriving Repr, DecidableEq

namespace Env

/-- `env::registry()`: `REGISTRY`, by default `registry.kube-system`. -/
def registry (env : String → Option String) : String :=
  (env "REGISTRY").getD "registry.kube-system"

/-- `env::repository()`: `REPOSITORY`, by default `ocf`. -/
def repository (env : String → Option String) : String :=
  (env "REPOSITORY").getD "ocf"

end Env

namespace ImageRegistry

/-- `ecr!(args..)`: `cmd!("aws", "ecr", args..)`. -/
def ecr (args : List Arg) : Command :=
  ⟨"aws", .plain "ecr" :: args⟩

/-- `ecr!("get-login-password")`. -/
def getLoginPassword : Command :=
  ecr [.plain "get-login-password"]

/-- `ecr::get_credentials()`: the user name and the password `get_password()` asked for; a
failure of the command is a `GetPasswordError` carrying its error. -/
def getCredentials (settings : Settings) (asked : ChildOutcome) : Except ExecError (String × String) :=
  (exec getLoginPassword.debugString asked).map fun password => (settings.awsUsername, password)

end ImageRegistry

end ConnectorManager
