import SketchGrader.Level.Book

/-!
# The shipped levels

The exercises that come with the grader.
-/

namespace SketchGrader.Shipped

/-- A sketch whose setup body declares outputs and whose loop body consists of the given calls. -/
def sketch (outputs : List Nat) (calls : List String) : String :=
  let declared := outputs.map fun pin => s!"  pinMode({pin}, OUTPUT);"
  let repeated := calls.map fun call => "  " ++ call ++ ";"
  let lines := ["void setup() \x7b"] ++ declared ++ ["\x7d", "", "void loop() \x7b"] ++ repeated ++
    ["\x7d"]
  String.join (lines.map (· ++ "\n"))

/-- Turns a pin on or off. -/
def high (pin : Nat) : String := s!"digitalWrite({pin}, HIGH)"
def low (pin : Nat) : String := s!"digitalWrite({pin}, LOW)"

def duty (pin percent : Nat) : String := s!"setDutyCycle({pin}, {percent})"

def pause (ms : Nat) : String := s!"delay({ms})"

def levels : List Level := [
  { id := 1
    name := "First Light"
    description := "Make the LED on pin 13 blink once per second"
    difficulty := .beginner
    timeLimitMs := 60000
    requiredPins := [13]
    hint := "Use digitalWrite(13, HIGH) and digitalWrite(13, LOW) with delay(1000) between them"
    targetCode := sketch [13] [high 13, pause 1000, low 13, pause 1000] },
  { id := 2
    name := "Slow Pulse"
    description := "Make the LED on pin 13 blink with 2 second intervals"
    difficulty := .beginner
    timeLimitMs := 60000
    requiredPins := [13]
    hint := "Similar to First Light, but use delay(2000) for 2 seconds"
    targetCode := sketch [13] [high 13, pause 2000, low 13, pause 2000] },
  { id := 3
    name := "Double Light"
    description := "Make both LEDs on pins 13 and 12 blink together at the same time"
    difficulty := .beginner
    timeLimitMs := 75000
    requiredPins := [12, 13]
    hint := "Both LEDs should turn on together, then off together"
    targetCode := sketch [13, 12] [high 13, high 12, pause 1000, low 13, low 12, pause 1000] },
  { id := 4
    name := "See-Saw"
    description := "Make LEDs on pins 13 and 12 alternate - when one is on, the other is off"
    difficulty := .beginner
    timeLimitMs := 75000
    requiredPins := [12, 13]
    hint := "Set one HIGH and the other LOW, then swap them"
    targetCode := sketch [13, 12] [high 13, low 12, pause 1000, low 13, high 12, pause 1000] },
  { id := 5
    name := "One After Another"
    description := "Turn on pin 13, wait, then turn on pin 12, then turn both off"
    difficulty := .beginner
    timeLimitMs := 90000
    requiredPins := [12, 13]
    hint := "Turn on first LED, delay, turn on second LED, delay, turn both off"
    targetCode := sketch [13, 12]
      [high 13, pause 1000, high 12, pause 1000, low 13, low 12, pause 1000] },
  { id := 6
    name := "Sequential Wave"
    description := "Turn pins on one by one, then off one by one"
    difficulty := .beginner
    timeLimitMs := 90000
    requiredPins := [12, 13]
    hint := "Each pin state changes one at a time with 1 second delays"
    targetCode := sketch [13, 12]
      [high 13, pause 1000, high 12, pause 1000, low 13, pause 1000, low 12, pause 1000] },
  { id := 7
    name := "Quick Flash"
    description := "Make pin 13 blink quickly - on for 1 second, off for 1 second"
    difficulty := .beginner
    timeLimitMs := 60000
    requiredPins := [13]
    hint := "Back to basics - just one LED blinking"
    targetCode := sketch [13] [high 13, pause 1000, low 13, pause 1000] },
  { id := 8
    name := "Triple Lights"
    description := "Make three LEDs blink together"
    difficulty := .intermediate
    timeLimitMs := 90000
    requiredPins := [11, 12, 13]
    hint := "All three LEDs turn on together, then off together"
    targetCode := sketch [13, 12, 11]
      [high 13, high 12, high 11, pause 1000, low 13, low 12, low 11, pause 1000] },
  { id := 9
    name := "Running Lights"
    description := "Create a sequential pattern across three LEDs"
    difficulty := .intermediate
    timeLimitMs := 120000
    requiredPins := [11, 12, 13]
    hint := "Turn LEDs on one by one, then off one by one"
    targetCode := sketch [13, 12, 11]
      [high 13, pause 1000, high 12, pause 1000, high 11, pause 1000, low 13, pause 1000, low 12,
        pause 1000, low 11, pause 1000] },
  { id := 10
    name := "Back and Forth"
    description := "Make two LEDs alternate with 2 second timing"
    difficulty := .beginner
    timeLimitMs := 75000
    requiredPins := [12, 13]
    hint := "Like See-Saw but slower - use delay(2000)"
    targetCode := sketch [13, 12] [high 13, low 12, pause 2000, low 13, high 12, pause 2000] },
  { id := 11
    name := "First PWM"
    description := "Control brightness using PWM - turn pin 9 on at 50% power, then off"
    difficulty := .intermediate
    timeLimitMs := 90000
    requiredPins := [9]
    requiresPwm := true
    hint := "Use setDutyCycle(9, 50) for 50% brightness, setDutyCycle(9, 0) for off"
    targetCode := sketch [9] [duty 9 50, pause 2000, duty 9 0, pause 2000] },
  { id := 12
    name := "Dim and Bright"
    description := "Alternate between 25% and 75% brightness"
    difficulty := .intermediate
    timeLimitMs := 90000
    requiredPins := [9]
    requiresPwm := true
    hint := "Use different percentage values with setDutyCycle"
    targetCode := sketch [9] [duty 9 25, pause 2000, duty 9 75, pause 2000] },
  { id := 13
    name := "Three Speeds"
    description := "Cycle through three different brightness levels"
    difficulty := .intermediate
    timeLimitMs := 120000
    requiredPins := [9]
    requiresPwm := true
    hint := "Use four different duty cycle values - 25, 50, 75, and 0"
    targetCode := sketch [9]
      [duty 9 25, pause 1000, duty 9 50, pause 1000, duty 9 75, pause 1000, duty 9 0,
        pause 1000] },
  { id := 14
    name := "Mixed Control"
    description := "Control a digital LED and PWM motor together"
    difficulty := .intermediate
    timeLimitMs := 120000
    requiredPins := [9, 13]
    requiresPwm := true
    hint := "Combine digitalWrite for pin 13 and setDutyCycle for pin 9"
    targetCode := sketch [13, 9] [high 13, duty 9 50, pause 2000, low 13, duty 9 0, pause 2000] },
  { id := 15
    name := "Pattern Master"
    description := "Create a complex pattern with digital LEDs and PWM motor"
    difficulty := .intermediate
    timeLimitMs := 150000
    requiredPins := [9, 12, 13]
    requiresPwm := true
    hint := "Coordinate multiple digital pins with changing PWM values"
    targetCode := sketch [13, 12, 9]
      [high 13, duty 9 25, pause 1000, high 12, duty 9 50, pause 1000, low 13, duty 9 75,
        pause 1000, low 12, duty 9 0, pause 1000] }]

def document : Datum := .record [("levels", .list (levels.map Level.toDatum))]

end SketchGrader.Shipped
