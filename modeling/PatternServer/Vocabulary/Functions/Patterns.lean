import PatternServer.Vocabulary.HostFunction

/-!
# Host functions: patterns

The entries for time, randomness, tonality and composition of patterns.
-/

namespace PatternServer.Vocabulary.Functions

set_option autoImplicit false
set_option maxRecDepth 8192

def patterns : List HostFunction :=
  [⟨"early", "Shift earlier", "Shift pattern earlier in time by the given amount",
      [⟨"early(amount)", none, [⟨"amount", "Amount to shift earlier (in cycles)"⟩]⟩]⟩,
   ⟨"late", "Shift later", "Shift pattern later in time by the given amount",
      [⟨"late(amount)", none, [⟨"amount", "Amount to shift later (in cycles)"⟩]⟩]⟩,
   ⟨"ply", "Multiply events", "Multiply each event in the pattern, subdividing it",
      [⟨"ply(factor)", none, [⟨"factor", "Number of times to subdivide each event"⟩]⟩]⟩,
   ⟨"segment", "Segment pattern", "Sample the pattern at a fixed number of segments per cycle",
      [⟨"segment(n)", none, [⟨"n", "Number of segments per cycle"⟩]⟩]⟩,
   ⟨"iter", "Iterate pattern", "Shift the pattern by 1/n each cycle, cycling through variations",
      [⟨"iter(n)", none, [⟨"n", "Number of iterations before repeating"⟩]⟩]⟩,
   ⟨"iterBack", "Iterate backwards", "Like iter but shifts in the opposite direction",
      [⟨"iterBack(n)", none, [⟨"n", "Number of iterations before repeating"⟩]⟩]⟩,
   ⟨"palindrome", "Palindrome", "Play pattern forwards then backwards",
      [⟨"palindrome()", none, []⟩]⟩,
   ⟨"compress", "Compress time", "Compress pattern into a portion of the cycle",
      [⟨"compress(start, end)", none, [⟨"start", "Start position (0-1)"⟩, ⟨"end", "End position (0-1)"⟩]⟩]⟩,
   ⟨"zoom", "Zoom into pattern", "Zoom into a portion of the pattern",
      [⟨"zoom(start, end)", none, [⟨"start", "Start position (0-1)"⟩, ⟨"end", "End position (0-1)"⟩]⟩]⟩,
   ⟨"linger", "Linger on portion", "Only play the first portion of the pattern, looping it",
      [⟨"linger(fraction)", none, [⟨"fraction", "Fraction of pattern to loop (e.g., 0.25 = first quarter)"⟩]⟩]⟩,
   ⟨"fastGap", "Fast with gap", "Speed up pattern but leave a gap, maintaining cycle length",
      [⟨"fastGap(factor)", none, [⟨"factor", "Speed factor"⟩]⟩]⟩,
   ⟨"inside", "Apply inside", "Apply function inside a time span (speed up, apply, slow down)",
      [⟨"inside(factor, function)", none, [⟨"factor", "Time compression factor"⟩, ⟨"function", "Function to apply"⟩]⟩]⟩,
   ⟨"outside", "Apply outside", "Apply function outside a time span (slow down, apply, speed up)",
      [⟨"outside(factor, function)", none, [⟨"factor", "Time expansion factor"⟩, ⟨"function", "Function to apply"⟩]⟩]⟩,
   ⟨"cpm", "Cycles per minute", "Set pattern speed in cycles per minute",
      [⟨"cpm(n)", none, [⟨"n", "Cycles per minute"⟩]⟩]⟩,
   ⟨"swing", "Swing feel", "Apply swing timing to pattern",
      [⟨"swing(amount)", none, [⟨"amount", "Swing amount (0-1)"⟩]⟩]⟩,
   ⟨"swingBy", "Swing by division", "Apply swing at specific subdivision",
      [⟨"swingBy(amount, division)", none, [⟨"amount", "Swing amount"⟩, ⟨"division", "Subdivision to swing"⟩]⟩]⟩,
   ⟨"hurry", "Hurry up", "Speed up pattern and also speed up sample playback",
      [⟨"hurry(factor)", none, [⟨"factor", "Speed factor (affects both pattern and samples)"⟩]⟩]⟩,
   ⟨"saw", "Sawtooth signal", "Continuous sawtooth wave pattern (0 to 1 over each cycle)",
      [⟨"saw", some "Use with .range() to set output range: saw.range(0, 100)", []⟩]⟩,
   ⟨"sine", "Sine signal", "Continuous sine wave pattern (oscillates 0 to 1)",
      [⟨"sine", some "Use with .range() to set output range: sine.range(200, 2000)", []⟩]⟩,
   ⟨"cosine", "Cosine signal", "Continuous cosine wave pattern (like sine but phase-shifted)",
      [⟨"cosine", some "Use with .range() to set output range: cosine.range(0, 1)", []⟩]⟩,
   ⟨"tri", "Triangle signal", "Continuous triangle wave pattern",
      [⟨"tri", some "Use with .range() to set output range: tri.range(0, 1)", []⟩]⟩,
   ⟨"square", "Square signal", "Continuous square wave pattern (alternates between 0 and 1)",
      [⟨"square", some "Use with .range() to set output range: square.range(0, 1)", []⟩]⟩,
   ⟨"rand", "Random signal", "Continuous random pattern (new random value each cycle)",
      [⟨"rand", some "Use with .range() to set output range: rand.range(0, 100)", []⟩]⟩,
   ⟨"perlin", "Perlin noise", "Smooth continuous random pattern using Perlin noise",
      [⟨"perlin", some "Use with .range() to set output range: perlin.range(0, 1)", []⟩]⟩,
   ⟨"irand", "Integer random", "Random integer pattern",
      [⟨"irand(max)", none, [⟨"max", "Maximum value (exclusive)"⟩]⟩]⟩,
   ⟨"brand", "Binary random", "Random binary pattern (0 or 1)",
      [⟨"brand", none, []⟩]⟩,
   ⟨"choose", "Choose random", "Randomly choose from a list of values each cycle",
      [⟨"choose(values.", none, [⟨"values", "Values to choose from"⟩]⟩,
       ⟨"choose([values])", none, [⟨"values", "Array of values to choose from"⟩]⟩]⟩,
   ⟨"wchoose", "Weighted choose", "Randomly choose with weights",
      [⟨"wchoose([[value, weight], ...])", none, [⟨"pairs", "Array of [value, weight] pairs"⟩]⟩]⟩,
   ⟨"chooseCycles", "Choose for N cycles", "Choose a random value and keep it for N cycles",
      [⟨"chooseCycles(n, values.", none, [⟨"n", "Number of cycles to keep the choice"⟩, ⟨"values", "Values to choose from"⟩]⟩]⟩,
   ⟨"degradeBy", "Degrade by amount", "Randomly remove events with given probability",
      [⟨"degradeBy(amount)", none, [⟨"amount", "Probability of removing each event (0-1)"⟩]⟩]⟩,
   ⟨"degrade", "Degrade 50%", "Randomly remove 50% of events",
      [⟨"degrade()", none, []⟩]⟩,
   ⟨"undegradeBy", "Undegrade by amount", "Randomly keep events with given probability (opposite of degradeBy)",
      [⟨"undegradeBy(amount)", none, [⟨"amount", "Probability of keeping each event (0-1)"⟩]⟩]⟩,
   ⟨"sometimesBy", "Sometimes by amount", "Apply function with given probability",
      [⟨"sometimesBy(amount, function)", none, [⟨"amount", "Probability (0-1)"⟩, ⟨"function", "Function to sometimes apply"⟩]⟩]⟩,
   ⟨"someCycles", "Some cycles", "Apply function on some cycles (50% probability per cycle)",
      [⟨"someCycles(function)", none, [⟨"function", "Function to apply on some cycles"⟩]⟩]⟩,
   ⟨"someCyclesBy", "Some cycles by amount", "Apply function on some cycles with given probability",
      [⟨"someCyclesBy(amount, function)", none, [⟨"amount", "Probability per cycle (0-1)"⟩, ⟨"function", "Function to apply"⟩]⟩]⟩,
   ⟨"never", "Never apply", "Never apply the function (0% probability)",
      [⟨"never(function)", none, [⟨"function", "Function to never apply"⟩]⟩]⟩,
   ⟨"always", "Always apply", "Always apply the function (100% probability)",
      [⟨"always(function)", none, [⟨"function", "Function to always apply"⟩]⟩]⟩,
   ⟨"seq", "Sequence", "Alias for cat - play patterns in sequence",
      [⟨"seq(pattern1, pattern2,.", none, [⟨"patterns", "Patterns to play in sequence"⟩]⟩]⟩,
   ⟨"silence", "Silence", "A silent pattern - produces no events",
      [⟨"silence", none, []⟩]⟩,
   ⟨"run", "Run sequence", "Create a pattern of numbers from 0 to n-1",
      [⟨"run(n)", none, [⟨"n", "Number of steps (0 to n-1)"⟩]⟩]⟩,
   ⟨"arrange", "Arrange patterns", "Arrange patterns over multiple cycles",
      [⟨"arrange([cycles, pattern],.", none, [⟨"pairs", "Array of [numCycles, pattern] pairs"⟩]⟩]⟩,
   ⟨"polymeter", "Polymeter", "Play patterns with different lengths simultaneously",
      [⟨"polymeter(pattern1, pattern2,.", none, [⟨"patterns", "Patterns of different lengths"⟩]⟩]⟩,
   ⟨"polymeterSteps", "Polymeter with steps", "Polymeter with specified step counts",
      [⟨"polymeterSteps(steps, pattern1, pattern2,.", none, [⟨"steps", "Number of steps per cycle"⟩, ⟨"patterns", "Patterns to polymetrically combine"⟩]⟩]⟩,
   ⟨"binary", "Binary pattern", "Create pattern from binary number",
      [⟨"binary(n)", none, [⟨"n", "Number to convert to binary pattern"⟩]⟩]⟩,
   ⟨"binaryN", "Binary with length", "Create pattern from binary number with specified length",
      [⟨"binaryN(bits, n)", none, [⟨"bits", "Number of bits (pattern length)"⟩, ⟨"n", "Number to convert"⟩]⟩]⟩,
   ⟨"transpose", "Transpose", "Transpose notes by semitones",
      [⟨"transpose(semitones)", none, [⟨"semitones", "Number of semitones to transpose"⟩]⟩]⟩,
   ⟨"scaleTranspose", "Scale transpose", "Transpose within the current scale",
      [⟨"scaleTranspose(steps)", none, [⟨"steps", "Number of scale steps to transpose"⟩]⟩]⟩,
   ⟨"rootNotes", "Root notes", "Get root notes of chords",
      [⟨"rootNotes(pattern)", none, [⟨"pattern", "Pattern of chord names"⟩]⟩]⟩,
   ⟨"chord", "Chord", "Play a chord by name",
      [⟨"chord(pattern)", none, [⟨"pattern", "Pattern of chord names, e.g., \"C Am F G\" or \"Cm7 Fmaj7\""⟩]⟩]⟩,
   ⟨"mode", "Scale mode", "Set the scale mode for note interpretation",
      [⟨"mode(pattern)", none, [⟨"pattern", "Pattern of mode names, e.g., \"major minor dorian\""⟩]⟩]⟩,
   ⟨"voicing", "Chord voicing", "Set chord voicing style",
      [⟨"voicing(style)", none, [⟨"style", "Voicing style, e.g., \"default\", \"lefthand\", \"open\", \"drop2\""⟩]⟩]⟩,
   ⟨"voicings", "Chord voicings", "Define custom chord voicings",
      [⟨"voicings(dictionary)", none, [⟨"dictionary", "Voicing dictionary object"⟩]⟩]⟩,
   ⟨"anchor", "Voicing anchor", "Set the anchor note for chord voicings",
      [⟨"anchor(note)", none, [⟨"note", "Anchor note, e.g., \"c3\""⟩]⟩]⟩,
   ⟨"octave", "Octave", "Set the octave for notes",
      [⟨"octave(n)", none, [⟨"n", "Octave number (e.g., 3, 4, 5)"⟩]⟩]⟩,
   ⟨"distort", "Distortion", "Apply distortion effect",
      [⟨"distort(amount)", none, [⟨"amount", "Distortion amount (0-1)"⟩]⟩]⟩,
   ⟨"shape", "Wave shaping", "Apply wave shaping distortion",
      [⟨"shape(amount)", none, [⟨"amount", "Shaping amount (0-1)"⟩]⟩]⟩,
   ⟨"tremolo", "Tremolo", "Apply tremolo (amplitude modulation) effect",
      [⟨"tremolo(depth, rate)", none, [⟨"depth", "Tremolo depth (0-1)"⟩, ⟨"rate", "Tremolo rate in Hz"⟩]⟩]⟩,
   ⟨"phaser", "Phaser", "Apply phaser effect",
      [⟨"phaser(depth, rate)", none, [⟨"depth", "Phaser depth (0-1)"⟩, ⟨"rate", "Phaser rate"⟩]⟩]⟩,
   ⟨"squiz", "Squiz", "Apply squiz effect (pitch-based distortion)",
      [⟨"squiz(amount)", none, [⟨"amount", "Squiz amount"⟩]⟩]⟩,
   ⟨"waveloss", "Wave loss", "Drop samples for lo-fi effect",
      [⟨"waveloss(amount)", none, [⟨"amount", "Amount of samples to drop"⟩]⟩]⟩,
   ⟨"delaytime", "Delay time", "Set delay time",
      [⟨"delaytime(time)", none, [⟨"time", "Delay time in cycles"⟩]⟩]⟩,
   ⟨"delayfeedback", "Delay feedback", "Set delay feedback amount",
      [⟨"delayfeedback(amount)", none, [⟨"amount", "Feedback amount (0-1)"⟩]⟩]⟩,
   ⟨"size", "Reverb size", "Set reverb room size",
      [⟨"size(amount)", none, [⟨"amount", "Room size (0-1)"⟩]⟩]⟩,
   ⟨"velocity", "Velocity", "Set note velocity (for MIDI/instruments)",
      [⟨"velocity(amount)", none, [⟨"amount", "Velocity (0-1)"⟩]⟩]⟩,
   ⟨"amp", "Amplitude", "Set amplitude (alias for gain)",
      [⟨"amp(amount)", none, [⟨"amount", "Amplitude level"⟩]⟩]⟩,
   ⟨"range", "Range", "Map pattern values to a range",
      [⟨"range(min, max)", none, [⟨"min", "Minimum output value"⟩, ⟨"max", "Maximum output value"⟩]⟩]⟩,
   ⟨"cps", "Get/set CPS", "Get or set cycles per second as a pattern",
      [⟨"cps(value)", none, [⟨"value", "Cycles per second"⟩]⟩]⟩,
   ⟨"off", "Off", "Layer a time-shifted and modified copy of the pattern",
      [⟨"off(amount, function)", none, [⟨"amount", "Time offset"⟩, ⟨"function", "Function to apply to offset copy"⟩]⟩]⟩,
   ⟨"layer", "Layer", "Layer multiple functions over the pattern",
      [⟨"layer(function1, function2,.", none, [⟨"functions", "Functions to layer"⟩]⟩]⟩,
   ⟨"superimpose", "Superimpose", "Play pattern with a modified copy on top",
      [⟨"superimpose(function)", none, [⟨"function", "Function to apply to superimposed copy"⟩]⟩]⟩,
   ⟨"stut", "Stutter", "Stutter effect - repeat with decay",
      [⟨"stut(times, decay, time)", none, [⟨"times", "Number of repeats"⟩, ⟨"decay", "Volume decay per repeat"⟩, ⟨"time", "Time between repeats"⟩]⟩]⟩,
   ⟨"echo", "Echo", "Echo effect - repeat with delay",
      [⟨"echo(times, time, feedback)", none, [⟨"times", "Number of echoes"⟩, ⟨"time", "Delay time"⟩, ⟨"feedback", "Feedback amount"⟩]⟩]⟩,
   ⟨"when", "When", "Apply function when condition is true",
      [⟨"when(condition, function)", none, [⟨"condition", "Boolean pattern or function"⟩, ⟨"function", "Function to apply when true"⟩]⟩]⟩,
   ⟨"while", "While", "Play pattern while condition is true, otherwise silence",
      [⟨"while(condition)", none, [⟨"condition", "Boolean pattern"⟩]⟩]⟩,
   ⟨"firstOf", "First of N", "Apply function only on the first of every N cycles",
      [⟨"firstOf(n, function)", none, [⟨"n", "Cycle interval"⟩, ⟨"function", "Function to apply on first cycle"⟩]⟩]⟩,
   ⟨"lastOf", "Last of N", "Apply function only on the last of every N cycles",
      [⟨"lastOf(n, function)", none, [⟨"n", "Cycle interval"⟩, ⟨"function", "Function to apply on last cycle"⟩]⟩]⟩,
   ⟨"chunk", "Chunk", "Divide pattern into chunks and apply function to one chunk per cycle",
      [⟨"chunk(n, function)", none, [⟨"n", "Number of chunks"⟩, ⟨"function", "Function to apply to current chunk"⟩]⟩]⟩,
   ⟨"arp", "Arpeggio", "Arpeggiate chords",
      [⟨"arp(pattern)", none, [⟨"pattern", "Arpeggio pattern (e.g., \"up\", \"down\", \"updown\")"⟩]⟩]⟩,
   ⟨"fastcat", "Fast concatenate", "Concatenate patterns, each taking one cycle (alias for cat)",
      [⟨"fastcat(pattern1, pattern2,.", none, [⟨"patterns", "Patterns to concatenate"⟩]⟩]⟩,
   ⟨"slowcat", "Slow concatenate", "Concatenate patterns, each pattern plays for one cycle in sequence",
      [⟨"slowcat(pattern1, pattern2,.", none, [⟨"patterns", "Patterns to concatenate"⟩]⟩]⟩,
   ⟨"randcat", "Random concatenate", "Randomly choose between patterns each cycle",
      [⟨"randcat(pattern1, pattern2,.", none, [⟨"patterns", "Patterns to randomly choose from"⟩]⟩]⟩,
   ⟨"pure", "Pure value", "Create a pattern from a single value",
      [⟨"pure(value)", none, [⟨"value", "Value to create pattern from"⟩]⟩]⟩,
   ⟨"reify", "Reify pattern", "Convert a value to a pattern if it is not already",
      [⟨"reify(value)", none, [⟨"value", "Value or pattern"⟩]⟩]⟩]

end PatternServer.Vocabulary.Functions
