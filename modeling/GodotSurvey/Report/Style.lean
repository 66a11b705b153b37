import GodotSurvey.Text.Case

/-!
# Colours in a terminal

Texts between the control sequences that switch a style on and off again.
-/

namespace GodotSurvey.Style

/-- The text between the sequences with the given codes. -/
def wrap (on off : Text) (s : Text) : Text := "\x1b[" ++ on ++ "m" ++ s ++ "\x1b[" ++ off ++ "m"

def bold (s : Text) : Text := wrap "1" "22" s
def boldCyan (s : Text) : Text := wrap "1;36" "22;0" s
def red (s : Text) : Text := wrap "31" "0" s
def green (s : Text) : Text := wrap "32" "0" s
def yellow (s : Text) : Text := wrap "33" "0" s
def cyan (s : Text) : Text := wrap "36" "0" s

/-- The text in the colour of a complexity tier, named in any letter case. -/
def byTier (tier s : Text) : Text :=
  let t := Text.lower tier
  if t == "high" then red s else if t == "medium" then yellow s
  else if t == "low" then green s else s

/-- A truth value as a word. -/
def mark (colored ok : Bool) : Text :=
  match ok, colored with
  | true, true => green "yes"
  | true, false => "yes"
  | false, true => red "no"
  | false, false => "no"

end GodotSurvey.Style
