import FlowDecl.Formatter.Outcome
import FlowDecl.Schema.Filter

/-!
# Steps around generation

A pipeline holds the filters that a schema goes through before its declarations are generated and
the finishers that the module text goes through afterwards, each in the order in which they were
added.  Every step has one of the two places; it is refused in the other one.
-/

namespace FlowDecl

/-- What is done to a module text. -/
inductive Finisher where
  /-- Puts a text above the module, on lines of its own. -/
  | banner (text : String)
  | formatter (command : Formatter.Command)

/-- A step before or after generation. -/
inductive Step where
  | filter (f : NameFilter)
  | finisher (f : Finisher)

/-- The word for a step in error messages. -/
def Step.title : Step → String
  | .filter _ => "FilterTypesHook"
  | .finisher (.banner _) => "AddHeaderHook"
  | .finisher (.formatter _) => "ExternalFormatterHook"

/-- A step in the wrong place. -/
inductive Misplaced where
  | beforeGeneration (step : Step)
  | afterGeneration (step : Step)

/-- The sentence for a step in the wrong place. -/
def Misplaced.message : Misplaced → String
  | .beforeGeneration step => step.title ++ " has no pre_generate method"
  | .afterGeneration step => step.title ++ " has no post_generate method"

/-- The steps around generation. -/
structure Pipeline where
  filters : List NameFilter := []
  finishers : List Finisher := []

/-- A banner above a text; it ends with a line end. -/
def withBanner (banner text : String) : String :=
  (if Text.endsWith "\n" banner then banner else banner ++ "\n") ++ text

/-- What a finisher makes of a text. -/
def Finisher.apply (run : Formatter.Runner) (text : String) :
    Finisher → Formatter.Action String
  | .banner heading => return withBanner heading text
  | .formatter command => Formatter.format run command text

namespace Pipeline

def addBefore (p : Pipeline) : Step → Except Misplaced Pipeline
  | .filter f => .ok { p with filters := p.filters ++ [f] }
  | step => .error (.beforeGeneration step)

def addAfter (p : Pipeline) : Step → Except Misplaced Pipeline
  | .finisher f => .ok { p with finishers := p.finishers ++ [f] }
  | step => .error (.afterGeneration step)

def filterSchema (p : Pipeline) (s : Schema) : Except NameFault Schema :=
  p.filters.foldlM (fun s f => f.apply s) s

def finish (run : Formatter.Runner) (p : Pipeline) (text : String) :
    Formatter.Action String :=
  p.finishers.foldlM (fun text f => f.apply run text) text

end Pipeline
end FlowDecl
