import RouterLayer.Failure
import RouterLayer.Options
import RouterLayer.Path.Specifier
import RouterLayer.SourceFile.Basic

set_option autoImplicit false

namespace RouterLayer.Router

def helpersDir : Text := "routers/helpers"

def bootstrapPath : Text := "routers/helpers/createRouter.ts"

def appPath : Text := "routers/index.ts"

def shieldDir : Text := "shield"

def shieldPath : Text := "shield/shield.ts"

structure Site where
  cwd : Path
  output : Path
  deriving DecidableEq, Repr

def specifier (site : Site) (source target : Path) : Except Failure Text :=
  match Path.specifier? site.cwd source target with
  | some s => .ok s
  | none => .error .noTarget

def configuredSpecifier (site : Site) (dir configured : Text) : Except Failure Text :=
  specifier site (site.output.join (Path.ofText dir))
    (Path.configured site.output (Path.ofText configured))

def baseProcedureName (options : Options) : Text :=
  if options.withShield then "shieldedProcedure" else "publicProcedure"

end RouterLayer.Router
