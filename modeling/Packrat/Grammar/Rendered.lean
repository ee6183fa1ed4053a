import Packrat.Grammar.Basic

/-! # Showing grammars

A grammar is shown as the name of its consumer and its arguments in brackets, with the label of its
factory in front.  A reference does not show what it stands for, so that recursive grammars can be
shown.
-/
namespace Packrat
namespace Grammar

/-- The opening of a consumer that may have a factory. -/
def renderHead (name : String) (factory : Option Factory) : String :=
  name ++ "[" ++ (match factory with
    | some f => f.label ++ ", "
    | none => "")

/-- An upper bound as it is shown, where `-1` stands for no bound. -/
def renderMax : Option Nat → String
  | some max => toString max
  | none => "-1"

mutual

/-- How a grammar is shown. -/
def render : Grammar → String
  | exact token factory => renderHead "exact" factory ++ "\"" ++ token ++ "\"]"
  | charRun min max cls factory =>
    renderHead "matches" factory ++ toString min ++ ", " ++ renderMax max ++ ", " ++ cls.render
      ++ "]"
  | endOfInput => "endOfInput"
  | skip body => "ignore[" ++ body.render ++ "]"
  | require body => "require[" ++ body.render ++ "]"
  | group name body => "group[name=\"" ++ name ++ "\", parser=" ++ body.render ++ "]"
  | replace _ body => "replace[" ++ body.render ++ "]"
  | reference _ => "reference[]"
  | memoized _ production => renderProduction production
  | counted _ body => "count[" ++ body.render ++ "]"
  | windowed size body => "window[" ++ toString size ++ ", " ++ body.render ++ "]"
  | once _ first later => "first[" ++ first.render ++ ", " ++ later.render ++ "]"
  | fail _ => "fail[]"

/-- How a production is shown. -/
def renderProduction : Production → String
  | .sequence parts factory =>
    renderHead "sequence" factory ++ "\x7b" ++ ", ".intercalate (renderAll parts) ++ "\x7d]"
  | .choice branches factory =>
    renderHead "alternative" factory ++ "\x7b" ++ ", ".intercalate (renderAll branches) ++ "\x7d]"
  | .repetition min max body factory =>
    renderHead "repeat" factory ++ toString min ++ ", " ++ renderMax max ++ ", " ++ body.render
      ++ "]"
  | .lift body factory => renderHead "lift" factory ++ body.render ++ "]"
  | .join _ body factory => renderHead "join" factory ++ body.render ++ "]"
  | .preserve body factory => renderHead "preserve" factory ++ body.render ++ "]"

/-- How the grammars of a list are shown, in order. -/
def renderAll : List Grammar → List String
  | [] => []
  | g :: gs => g.render :: renderAll gs

end

end Grammar
end Packrat
