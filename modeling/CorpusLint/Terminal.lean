import CorpusLint.Text.Basic

/-!
# The terminal and the environment

A terminal shows a text in colour when it stands between two escape sequences. Without colours the
text is left as it is. Padding is inside the sequences, so that columns stay aligned.

The variables of the environment, and whether the output goes to a terminal, decide on colours and
on tracing, and on nothing else.
-/

namespace CorpusLint

/-! ## Colours -/

/-- The looks of a text on a terminal; all colours are bright. -/
inductive Tint where
  | green
  | red
  | boldRed
  | yellow
  | cyan
deriving DecidableEq, Repr

namespace Tint

/-- The parameters of the escape sequence. -/
def code : Tint → Text
  | green => "92".toList
  | red => "91".toList
  | boldRed => "1;91".toList
  | yellow => "93".toList
  | cyan => "96".toList

/-- The text in the tint, if colours are on. -/
def paint (colours : Bool) (tint : Tint) (t : Text) : Text :=
  if colours then "\x1b[".toList ++ tint.code ++ 'm' :: t ++ "\x1b[0m".toList else t

end Tint

/-! ## The environment -/

/-- The variables of the environment that a run looks at. -/
structure Environment where
  /-- Whether to trace the rules: only when it is `1`. -/
  trace : Option Text := none
  /-- Set to switch colours off. -/
  noColor : Option Text := none
  /-- Set to `0` to switch colours off on a terminal. -/
  clicolor : Option Text := none
  /-- Set to anything but `0` to switch colours on everywhere. -/
  clicolorForce : Option Text := none
  /-- Whether the output goes to a terminal. -/
  terminal : Bool := false
deriving DecidableEq, Repr

namespace Environment

/-- Whether the output is coloured where no option says otherwise: when it is forced; else not when
colours are refused; else on a terminal that has not switched them off. -/
def colours (env : Environment) : Bool :=
  match env.clicolorForce with
  | some value => if value == "0".toList then unforced else true
  | none => unforced
where
  /-- The choice where nothing forces colours. -/
  unforced : Bool :=
    env.noColor.isNone && env.terminal && env.clicolor != some "0".toList

def traces (env : Environment) : Bool :=
  env.trace == some "1".toList

end Environment

end CorpusLint
