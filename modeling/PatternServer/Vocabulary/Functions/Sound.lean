import PatternServer.Vocabulary.HostFunction

/-!
# Host functions: sound

The entries for arithmetic on values, envelopes, synthesis and device output.
-/

namespace PatternServer.Vocabulary.Functions

set_option autoImplicit false
set_option maxRecDepth 8192

def sound : List HostFunction :=
  [⟨"add", "Add", "Add a value or pattern to the current pattern",
      [⟨"add(value)", none, [⟨"value", "Value to add"⟩]⟩]⟩,
   ⟨"sub", "Subtract", "Subtract a value or pattern from the current pattern",
      [⟨"sub(value)", none, [⟨"value", "Value to subtract"⟩]⟩]⟩,
   ⟨"mul", "Multiply", "Multiply the current pattern by a value or pattern",
      [⟨"mul(value)", none, [⟨"value", "Value to multiply by"⟩]⟩]⟩,
   ⟨"div", "Divide", "Divide the current pattern by a value or pattern",
      [⟨"div(value)", none, [⟨"value", "Value to divide by"⟩]⟩]⟩,
   ⟨"juxBy", "Juxtapose by amount", "Apply function to right channel with adjustable stereo width",
      [⟨"juxBy(amount, function)", none, [⟨"amount", "Stereo width (0-1, 0.5 = half width)"⟩, ⟨"function", "Function to apply to right channel"⟩]⟩]⟩,
   ⟨"ad", "Attack-Decay envelope", "Set attack and decay times",
      [⟨"ad(attack, decay)", none, [⟨"attack", "Attack time in seconds"⟩, ⟨"decay", "Decay time in seconds"⟩]⟩]⟩,
   ⟨"adsr", "ADSR envelope", "Set full ADSR envelope",
      [⟨"adsr(attack, decay, sustain, release)", none, [⟨"attack", "Attack time"⟩, ⟨"decay", "Decay time"⟩, ⟨"sustain", "Sustain level (0-1)"⟩, ⟨"release", "Release time"⟩]⟩]⟩,
   ⟨"ar", "Attack-Release envelope", "Set attack and release times (no sustain)",
      [⟨"ar(attack, release)", none, [⟨"attack", "Attack time in seconds"⟩, ⟨"release", "Release time in seconds"⟩]⟩]⟩,
   ⟨"dur", "Duration", "Set event duration in cycles",
      [⟨"dur(cycles)", none, [⟨"cycles", "Duration in cycles"⟩]⟩]⟩,
   ⟨"legato", "Legato", "Set note legato (overlap/gap between notes)",
      [⟨"legato(value)", none, [⟨"value", "Legato value (1 = full duration, <1 = gap, >1 = overlap)"⟩]⟩]⟩,
   ⟨"nudge", "Nudge timing", "Shift events in time by a small amount",
      [⟨"nudge(seconds)", none, [⟨"seconds", "Time offset in seconds"⟩]⟩]⟩,
   ⟨"unit", "Time unit", "Set the time unit for speed calculations",
      [⟨"unit(type)", none, [⟨"type", "Unit type: \"r\" (rate), \"c\" (cycle), \"s\" (seconds)"⟩]⟩]⟩,
   ⟨"gate", "Gate", "Set gate time (note on duration)",
      [⟨"gate(value)", none, [⟨"value", "Gate time (0-1)"⟩]⟩]⟩,
   ⟨"hold", "Hold", "Hold/sustain the sound",
      [⟨"hold(value)", none, [⟨"value", "Hold time"⟩]⟩]⟩,
   ⟨"freq", "Frequency", "Set frequency in Hz directly",
      [⟨"freq(hz)", none, [⟨"hz", "Frequency in Hz"⟩]⟩]⟩,
   ⟨"noise", "Noise", "Add noise to the sound",
      [⟨"noise(amount)", none, [⟨"amount", "Noise amount (0-1)"⟩]⟩]⟩,
   ⟨"detune", "Detune", "Detune the sound in semitones",
      [⟨"detune(semitones)", none, [⟨"semitones", "Detune amount in semitones"⟩]⟩]⟩,
   ⟨"unison", "Unison", "Add unison voices for thicker sound",
      [⟨"unison(voices)", none, [⟨"voices", "Number of unison voices"⟩]⟩]⟩,
   ⟨"fm", "FM amount", "Set FM synthesis modulation amount",
      [⟨"fm(amount)", none, [⟨"amount", "FM modulation amount"⟩]⟩]⟩,
   ⟨"fmi", "FM index", "Set FM modulation index",
      [⟨"fmi(index)", none, [⟨"index", "FM modulation index"⟩]⟩]⟩,
   ⟨"fmh", "FM harmonic", "Set FM modulator harmonic ratio",
      [⟨"fmh(ratio)", none, [⟨"ratio", "Harmonic ratio of modulator"⟩]⟩]⟩,
   ⟨"vib", "Vibrato", "Add vibrato effect",
      [⟨"vib(depth)", none, [⟨"depth", "Vibrato depth"⟩]⟩]⟩,
   ⟨"vibrato", "Vibrato (full)", "Add vibrato with rate control",
      [⟨"vibrato(depth, rate)", none, [⟨"depth", "Vibrato depth"⟩, ⟨"rate", "Vibrato rate in Hz"⟩]⟩]⟩,
   ⟨"leslie", "Leslie speaker", "Apply Leslie speaker effect (rotating speaker)",
      [⟨"leslie(amount)", none, [⟨"amount", "Leslie effect amount"⟩]⟩]⟩,
   ⟨"wt", "Wavetable", "Use wavetable synthesis",
      [⟨"wt(table)", none, [⟨"table", "Wavetable name or number"⟩]⟩]⟩,
   ⟨"within", "Within", "Apply function to a portion of the pattern",
      [⟨"within(start, end, function)", none, [⟨"start", "Start position (0-1)"⟩, ⟨"end", "End position (0-1)"⟩, ⟨"function", "Function to apply"⟩]⟩]⟩,
   ⟨"focus", "Focus", "Focus on a portion of the pattern",
      [⟨"focus(start, end)", none, [⟨"start", "Start position (0-1)"⟩, ⟨"end", "End position (0-1)"⟩]⟩]⟩,
   ⟨"contrast", "Contrast", "Apply different functions based on a boolean pattern",
      [⟨"contrast(trueFunc, falseFunc, boolPattern)", none, [⟨"trueFunc", "Function when true"⟩, ⟨"falseFunc", "Function when false"⟩, ⟨"boolPattern", "Boolean pattern"⟩]⟩]⟩,
   ⟨"scramble", "Scramble", "Randomly rearrange pattern segments",
      [⟨"scramble(n)", none, [⟨"n", "Number of segments"⟩]⟩]⟩,
   ⟨"shuffle", "Shuffle", "Shuffle pattern segments (same random order each cycle)",
      [⟨"shuffle(n)", none, [⟨"n", "Number of segments"⟩]⟩]⟩,
   ⟨"bite", "Bite", "Slice and rearrange pattern segments",
      [⟨"bite(n, pattern)", none, [⟨"n", "Number of segments"⟩, ⟨"pattern", "Pattern of segment indices"⟩]⟩]⟩,
   ⟨"inhabit", "Inhabit", "Map pattern values to other patterns",
      [⟨"inhabit(mapping)", none, [⟨"mapping", "Object mapping values to patterns"⟩]⟩]⟩,
   ⟨"weave", "Weave", "Weave patterns together with time offsets",
      [⟨"weave(subdivisions, patterns.", none, [⟨"subdivisions", "Number of subdivisions"⟩, ⟨"patterns", "Patterns to weave"⟩]⟩]⟩,
   ⟨"weaveWith", "Weave with function", "Weave with a function applied at each step",
      [⟨"weaveWith(subdivisions, function, patterns.", none, [⟨"subdivisions", "Number of subdivisions"⟩, ⟨"function", "Function to apply"⟩, ⟨"patterns", "Patterns to weave"⟩]⟩]⟩,
   ⟨"spin", "Spin", "Layer pattern with itself, rotated in stereo",
      [⟨"spin(n)", none, [⟨"n", "Number of rotations"⟩]⟩]⟩,
   ⟨"stripe", "Stripe", "Apply function in stripes across the pattern",
      [⟨"stripe(n)", none, [⟨"n", "Number of stripes"⟩]⟩]⟩,
   ⟨"reset", "Reset", "Reset pattern when triggered",
      [⟨"reset(trigger)", none, [⟨"trigger", "Trigger pattern"⟩]⟩]⟩,
   ⟨"resetCycles", "Reset cycles", "Reset pattern after N cycles",
      [⟨"resetCycles(n)", none, [⟨"n", "Number of cycles before reset"⟩]⟩]⟩,
   ⟨"set", "Set", "Set control values from an object pattern",
      [⟨"set(pattern)", none, [⟨"pattern", "Pattern of \x7bcontrol: value\x7d objects"⟩]⟩]⟩,
   ⟨"ccn", "CC number", "Set MIDI CC number",
      [⟨"ccn(number)", none, [⟨"number", "MIDI CC number (0-127)"⟩]⟩]⟩,
   ⟨"ccv", "CC value", "Set MIDI CC value",
      [⟨"ccv(value)", none, [⟨"value", "MIDI CC value (0-127)"⟩]⟩]⟩,
   ⟨"midichan", "MIDI channel", "Set MIDI channel",
      [⟨"midichan(channel)", none, [⟨"channel", "MIDI channel (0-15)"⟩]⟩]⟩,
   ⟨"midiport", "MIDI port", "Set MIDI output port",
      [⟨"midiport(port)", none, [⟨"port", "MIDI port name"⟩]⟩]⟩,
   ⟨"color", "Color", "Set color for visualization",
      [⟨"color(value)", none, [⟨"value", "Color value (CSS color or pattern)"⟩]⟩]⟩,
   ⟨"log", "Log", "Log pattern values to console for debugging",
      [⟨"log()", none, []⟩]⟩,
   ⟨"apply", "Apply", "Apply a function to the pattern",
      [⟨"apply(function)", none, [⟨"function", "Function to apply"⟩]⟩]⟩,
   ⟨"all", "All", "Apply function to all events",
      [⟨"all(function)", none, [⟨"function", "Function to apply to all events"⟩]⟩]⟩,
   ⟨"press", "Press", "Compress events to the first half of their timespan",
      [⟨"press()", none, []⟩]⟩,
   ⟨"pressBy", "Press by", "Compress events by a specified amount",
      [⟨"pressBy(amount)", none, [⟨"amount", "Compression amount (0-1)"⟩]⟩]⟩,
   ⟨"pickF", "Pick with function", "Pick samples using a function",
      [⟨"pickF(function)", none, [⟨"function", "Function to determine sample selection"⟩]⟩]⟩,
   ⟨"pickOut", "Pick out", "Pick samples cycling through indices",
      [⟨"pickOut(pattern)", none, [⟨"pattern", "Pattern of sample indices"⟩]⟩]⟩,
   ⟨"pickRestart", "Pick restart", "Pick samples, restarting on each cycle",
      [⟨"pickRestart()", none, []⟩]⟩]

end PatternServer.Vocabulary.Functions
