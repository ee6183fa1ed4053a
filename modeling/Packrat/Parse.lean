import Packrat.Config
import Packrat.Consume

/-! # Parsing a text

A parse consumes a grammar from the start of a text with a fresh memo table, and answers with the
first node the grammar produced.  Unless the settings allow it, text left over is an error.
-/
namespace Packrat
namespace Grammar

/-- The node of a parse that left `rest` over. -/
def firstNode (rest : Window) (root : NodeBuilder) : Except ParseError Node :=
  match root.children[0]? with
  | some node => .ok node
  | none => .error (.mismatch "No node produced" rest.start none)

/-- Parsing under given settings, with at most `fuel` consumers nested. -/
def parseWith (env : Environment) (fuel : Nat) (config : Config) (g : Grammar) (text : String) :
    Eval (Except ParseError Node) := do
  Eval.emit (.parseStarted text.utf8ByteSize)
  let memo ← Eval.check (MemoTable.withCapacity config.memoCapacity)
  modify fun s => { s with memo }
  let o ← consume env fuel g (.ofText text) .empty
  match o.result with
  | .error e => do
    unless e.isRecoverable do Eval.emit (.parseAborted e)
    pure (.error e)
  | .ok rest =>
    if config.requireCompleteInput && !rest.isEmpty then
      pure (.error (.remainingInput (rest.preview config.errorPreviewChars) rest.start none))
    else do
      let (entries, hits) ← Eval.memoStatistics
      Eval.emit (.parseFinished rest.start entries hits)
      pure (firstNode rest o.parent)

/-- Parsing the whole of a text. -/
def parse (env : Environment) (fuel : Nat) (g : Grammar) (text : String) :
    Eval (Except ParseError Node) :=
  parseWith env fuel {} g text

/-- Parsing from the start of a text, with anything left over ignored. -/
def sloppyParse (env : Environment) (fuel : Nat) (g : Grammar) (text : String) :
    Eval (Except ParseError Node) :=
  parseWith env fuel .sloppy g text

end Grammar
end Packrat
