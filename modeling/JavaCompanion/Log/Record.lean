/-
Log records: how grave, from which logger, and what.
-/
namespace JavaCompanion
namespace Log

inductive Level where
  | debug
  | info
  | warning
  | error
  | critical
  deriving DecidableEq, Repr

namespace Level

def all : List Level := [.debug, .info, .warning, .error, .critical]

def number : Level → Nat
  | .debug => 10
  | .info => 20
  | .warning => 30
  | .error => 40
  | .critical => 50

def name : Level → String
  | .debug => "DEBUG"
  | .info => "INFO"
  | .warning => "WARNING"
  | .error => "ERROR"
  | .critical => "CRITICAL"

end Level

structure Record where
  level : Level
  logger : String
  message : String
  deriving DecidableEq, Repr

/-- The name above all loggers. -/
def rootName : String := "companion_gen"

/-- The logger of that name, below the root unless it is there already. -/
def loggerName (name : String) : String :=
  if name = rootName || name.startsWith (rootName ++ ".") then name else rootName ++ "." ++ name

/-- The loggers of the parts of the library. -/
def extractionLogger : String := "companion_gen.codegen.core.extraction"

def generatorLogger : String := "companion_gen.codegen.core.generator"

def configLogger : String := "companion_gen.codegen.core.config"

def factoryLogger : String := "companion_gen.codegen.generators.factory.generator"

def observableLogger : String := "companion_gen.codegen.generators.observable.generator"

def catalogueLogger : String := "companion_gen.codegen.registry"

def roundLogger : String := "companion_gen.codegen.processor"

def loadingLogger : String := "companion_gen.utils"

end Log
end JavaCompanion
