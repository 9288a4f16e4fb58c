import StageMotion.Settings

/-!
# Messages

How numbers are shown to people, and the wording of what is wrong with settings. Messages show a
number with the fewest digits that identify it, never with an exponent, and whole numbers without a
point; or rounded to a number of places. What is no number and what is infinite are words.
-/

namespace StageMotion

namespace Text

/-- How messages lay numbers out. -/
def messageLayout : Layout where
  tie := .upward
  positional _ := true
  pointZero := false

/-- A number in a message, the finite ones as a given numeral. -/
def numberWith (numeral : Float → Numeral) (x : Float) : String :=
  if x.isNaN then "NaN"
  else if x.isInf then (if x < 0.0 then "-inf" else "inf")
  else (numeral x).text

/-- A number in a message. -/
def number : Float → String := numberWith messageLayout.ofFloat

/-- A number in a message, rounded to some places. -/
def numberTo (places : Nat) : Float → String := numberWith (.withPlaces places)

end Text

/-- What is wrong with the settings, in words. -/
def SettingsError.message : SettingsError Float → String
  | unreadable => "failed to read settings file"
  | malformed => "failed to parse settings"
  | badStage width height =>
    "invalid stage size " ++ Text.number width ++ "x" ++ Text.number height
  | badTickRate rate => "tick rate " ++ Text.number rate ++ " Hz outside 1..=1000 Hz"

end StageMotion
