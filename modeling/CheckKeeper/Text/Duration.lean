import CheckKeeper.Number.Literal

namespace CheckKeeper.Text

/-! Spans of whole seconds as text.

Hours and minutes are written only as far as there are any; a span below nought
counts back from a whole hour.
-/

def renderDuration (seconds : Int) : String :=
  let minutes := seconds / 60
  let hours := minutes / 60
  let amount := fun (n : Int) (mark : String) => Number.renderInt n ++ mark
  let secondsText := amount (seconds % 60) "s"
  if hours ≠ 0 then
    amount hours "h " ++ amount (minutes % 60) "m " ++ secondsText
  else if minutes ≠ 0 then amount minutes "m " ++ secondsText
  else secondsText

end CheckKeeper.Text
