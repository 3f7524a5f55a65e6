import PageBuilder.Blocks.Parts
import PageBuilder.Json.Writer

/-!
# Countdowns

A block that counts down to a date, with the script that does the counting.  The date and the
identifier of the block stand in the script as string literals, so whatever a user gave remains a
string there.
-/

namespace PageBuilder.Blocks

open Markup

/-- The identifier of the element that a countdown fills. -/
def countdownId (id : Nat) : String := "countdown-" ++ toString id

/-- The moment that a countdown counts to, as a script reads it. -/
def countdownTarget (d : Object) : String := d.text "targetDate" ++ "T" ++ d.text "targetTime"

/-! ## The script -/

/-- The script before the target. -/
def scriptHead : String :=
  "(function() \x7b\n" ++
    "    const targetDate = new Date("

/-- The script between the target and the identifier. -/
def scriptMiddle : String :=
  ").getTime();\n" ++
    "    const container = document.getElementById("

/-- The script after the identifier. -/
def scriptTail : String :=
  ");\n" ++
    "    if (!container) return;\n" ++
    "    const pad = (n) => String(n).padStart(2, '0');\n" ++
    "    const set = (cls, v) => \x7b container.querySelector('.' + cls).textContent = v; \x7d;\n" ++
    "    function updateCountdown() \x7b\n" ++
    "        const distance = targetDate - Date.now();\n" ++
    "        if (!(distance >= 0)) \x7b\n" ++
    "            ['countdown-days', 'countdown-hours', 'countdown-minutes', 'countdown-seconds'].forEach((c) => set(c, '00'));\n" ++
    "            return;\n" ++
    "        \x7d\n" ++
    "        set('countdown-days', pad(Math.floor(distance / 86400000)));\n" ++
    "        set('countdown-hours', pad(Math.floor((distance % 86400000) / 3600000)));\n" ++
    "        set('countdown-minutes', pad(Math.floor((distance % 3600000) / 60000)));\n" ++
    "        set('countdown-seconds', pad(Math.floor((distance % 60000) / 1000)));\n" ++
    "    \x7d\n" ++
    "    updateCountdown();\n" ++
    "    setInterval(updateCountdown, 1000);\n" ++
    "\x7d)();"

/-- The script of a countdown. -/
def countdownScript (target elementId : String) : String :=
  scriptHead ++ Json.stringText target ++ scriptMiddle ++ Json.stringText elementId ++ scriptTail

/-! ## The block -/

/-- The units that are counted: the class the script looks for, and a label. -/
def countdownUnits : List (String × String) :=
  [("countdown-days", "Days"), ("countdown-hours", "Hours"), ("countdown-minutes", "Minutes"),
    ("countdown-seconds", "Seconds")]

/-- The box of one unit. -/
def countdownUnit (name label : String) : Node :=
  box "background: rgba(255,255,255,0.1); padding: 2rem 1rem; border-radius: 1rem; backdrop-filter: blur(10px);"
    [el "div"
      [cls name, css "font-size: 3rem; font-weight: 800; margin-bottom: 0.5rem;"]
      [.text "--"],
      leaf "div" "font-size: 0.875rem; opacity: 0.8; text-transform: uppercase;" label]

/-- A countdown, for the component with this id. -/
def countdown (id : Nat) (d : Object) : Node :=
  let body :=
    el "div"
      [style [
        .raw "padding: 6rem 2rem",
        .set "background" (d.text "backgroundColor"),
        .set "color" (d.text "textColor"),
        .raw "text-align: center"]]
      [container "800px"
        [leaf "h2" "font-size: 2.5rem; margin-bottom: 0.5rem; font-weight: 800;"
          (d.text "heading"),
          leaf "p" "font-size: 1.25rem; margin-bottom: 3rem; opacity: 0.9;" (d.text "subtitle"),
          el "div"
            [("id", countdownId id),
              css "display: grid; grid-template-columns: repeat(4, 1fr); gap: 2rem; max-width: 600px; margin: 0 auto;"]
            (countdownUnits.map fun (name, label) => countdownUnit name label)]]
  .fragment [body, .script (countdownScript (countdownTarget d) (countdownId id))]

end PageBuilder.Blocks
