import PatternServer.Vocabulary.HostFunction

/-!
# Host functions: essentials

The entries for the sounds, filters and pattern operations that every piece uses.
-/

namespace PatternServer.Vocabulary.Functions

set_option autoImplicit false
set_option maxRecDepth 8192

def essentials : List HostFunction :=
  [⟨"s", "Sound/sample", "Play a sound or sample",
      [⟨"s(pattern)", none, [⟨"pattern", "Mini-notation pattern of sample names, e.g., \"bd sd hh\""⟩]⟩]⟩,
   ⟨"sound", "Sound/sample (alias for s)", "Play a sound or sample",
      [⟨"sound(pattern)", none, [⟨"pattern", "Mini-notation pattern of sample names"⟩]⟩]⟩,
   ⟨"n", "Note number", "Set note by MIDI number or pattern",
      [⟨"n(pattern)", none, [⟨"pattern", "Pattern of MIDI note numbers, e.g., \"0 2 4 7\""⟩]⟩]⟩,
   ⟨"note", "Note name", "Set note by name",
      [⟨"note(pattern)", none, [⟨"pattern", "Pattern of note names, e.g., \"c4 e4 g4\""⟩]⟩]⟩,
   ⟨"fast", "Speed up pattern", "Speed up the pattern by a factor",
      [⟨"fast(factor)", none, [⟨"factor", "Speed multiplier (2 = twice as fast)"⟩]⟩]⟩,
   ⟨"slow", "Slow down pattern", "Slow down the pattern by a factor",
      [⟨"slow(factor)", none, [⟨"factor", "Speed divisor (2 = twice as slow)"⟩]⟩]⟩,
   ⟨"gain", "Volume", "Set the volume/gain",
      [⟨"gain(amount)", none, [⟨"amount", "Volume level (0-1, can go higher for boost)"⟩]⟩]⟩,
   ⟨"pan", "Stereo pan", "Set stereo panning",
      [⟨"pan(position)", none, [⟨"position", "Pan position (0 = left, 0.5 = center, 1 = right)"⟩]⟩]⟩,
   ⟨"speed", "Playback speed", "Change sample playback speed (affects pitch)",
      [⟨"speed(rate)", none, [⟨"rate", "Playback rate (1 = normal, 2 = octave up, 0.5 = octave down, negative = reverse)"⟩]⟩]⟩,
   ⟨"lpf", "Low-pass filter", "Apply a low-pass filter",
      [⟨"lpf(frequency)", none, [⟨"frequency", "Cutoff frequency in Hz (e.g., 1000)"⟩]⟩,
       ⟨"lpf(frequency, resonance)", none, [⟨"frequency", "Cutoff frequency in Hz"⟩, ⟨"resonance", "Filter resonance (Q factor)"⟩]⟩]⟩,
   ⟨"hpf", "High-pass filter", "Apply a high-pass filter",
      [⟨"hpf(frequency)", none, [⟨"frequency", "Cutoff frequency in Hz (e.g., 200)"⟩]⟩,
       ⟨"hpf(frequency, resonance)", none, [⟨"frequency", "Cutoff frequency in Hz"⟩, ⟨"resonance", "Filter resonance (Q factor)"⟩]⟩]⟩,
   ⟨"bpf", "Band-pass filter", "Apply a band-pass filter",
      [⟨"bpf(frequency)", none, [⟨"frequency", "Center frequency in Hz"⟩]⟩,
       ⟨"bpf(frequency, resonance)", none, [⟨"frequency", "Center frequency in Hz"⟩, ⟨"resonance", "Filter resonance (Q factor, affects bandwidth)"⟩]⟩]⟩,
   ⟨"delay", "Delay effect", "Add a delay/echo effect",
      [⟨"delay(amount)", none, [⟨"amount", "Delay wet/dry mix (0-1)"⟩]⟩,
       ⟨"delay(amount, time, feedback)", none, [⟨"amount", "Wet/dry mix (0-1)"⟩, ⟨"time", "Delay time in cycles (e.g., 0.5)"⟩, ⟨"feedback", "Feedback amount (0-1)"⟩]⟩]⟩,
   ⟨"room", "Reverb", "Add reverb effect",
      [⟨"room(size)", none, [⟨"size", "Room size / reverb amount (0-1)"⟩]⟩]⟩,
   ⟨"crush", "Bitcrush", "Apply bitcrusher effect",
      [⟨"crush(bits)", none, [⟨"bits", "Bit depth (1-16, lower = more crushed)"⟩]⟩]⟩,
   ⟨"coarse", "Sample rate reduction", "Reduce sample rate for lo-fi effect",
      [⟨"coarse(amount)", none, [⟨"amount", "Reduction factor (higher = more aliasing)"⟩]⟩]⟩,
   ⟨"vowel", "Vowel filter", "Apply vowel formant filter",
      [⟨"vowel(pattern)", none, [⟨"pattern", "Pattern of vowels: a, e, i, o, u"⟩]⟩]⟩,
   ⟨"euclid", "Euclidean rhythm", "Apply Euclidean rhythm distribution",
      [⟨"euclid(pulses, steps)", none, [⟨"pulses", "Number of pulses/hits"⟩, ⟨"steps", "Total number of steps"⟩]⟩,
       ⟨"euclid(pulses, steps, rotation)", none, [⟨"pulses", "Number of pulses/hits"⟩, ⟨"steps", "Total number of steps"⟩, ⟨"rotation", "Rotation offset"⟩]⟩]⟩,
   ⟨"every", "Apply every N cycles", "Apply a function every N cycles",
      [⟨"every(n, function)", none, [⟨"n", "Number of cycles"⟩, ⟨"function", "Function to apply, e.g., rev or fast(2)"⟩]⟩]⟩,
   ⟨"rev", "Reverse", "Reverse the pattern",
      [⟨"rev()", none, []⟩]⟩,
   ⟨"jux", "Juxtapose", "Apply function to right channel only",
      [⟨"jux(function)", none, [⟨"function", "Function to apply to right channel"⟩]⟩]⟩,
   ⟨"stack", "Stack patterns", "Play multiple patterns simultaneously",
      [⟨"stack(pattern1, pattern2,.", none, [⟨"patterns", "Patterns to play in parallel"⟩]⟩]⟩,
   ⟨"cat", "Concatenate", "Play patterns in sequence",
      [⟨"cat(pattern1, pattern2,.", none, [⟨"patterns", "Patterns to play in sequence"⟩]⟩]⟩,
   ⟨"sometimes", "Apply sometimes (50%)", "Apply function with 50% probability",
      [⟨"sometimes(function)", none, [⟨"function", "Function to sometimes apply"⟩]⟩]⟩,
   ⟨"often", "Apply often (75%)", "Apply function with 75% probability",
      [⟨"often(function)", none, [⟨"function", "Function to often apply"⟩]⟩]⟩,
   ⟨"rarely", "Apply rarely (25%)", "Apply function with 25% probability",
      [⟨"rarely(function)", none, [⟨"function", "Function to rarely apply"⟩]⟩]⟩,
   ⟨"almostAlways", "Apply almost always (90%)", "Apply function with 90% probability",
      [⟨"almostAlways(function)", none, [⟨"function", "Function to almost always apply"⟩]⟩]⟩,
   ⟨"almostNever", "Apply almost never (10%)", "Apply function with 10% probability",
      [⟨"almostNever(function)", none, [⟨"function", "Function to almost never apply"⟩]⟩]⟩,
   ⟨"bank", "Sample bank", "Set the sample bank (drum machine)",
      [⟨"bank(name)", none, [⟨"name", "Bank name, e.g., \"RolandTR808\" or \"TR808\""⟩]⟩]⟩,
   ⟨"scale", "Musical scale", "Quantize notes to a scale",
      [⟨"scale(name)", none, [⟨"name", "Scale name, e.g., \"major\", \"minor\", \"dorian\""⟩]⟩]⟩,
   ⟨"struct", "Structure", "Apply rhythmic structure from another pattern",
      [⟨"struct(pattern)", none, [⟨"pattern", "Boolean pattern for rhythm, e.g., \"t f t f\""⟩]⟩]⟩,
   ⟨"mask", "Mask pattern", "Mask pattern with boolean pattern",
      [⟨"mask(pattern)", none, [⟨"pattern", "Boolean pattern to mask with"⟩]⟩]⟩,
   ⟨"clip", "Clip duration", "Multiply event duration",
      [⟨"clip(factor)", none, [⟨"factor", "Duration multiplier (1 = full, 0.5 = half)"⟩]⟩]⟩,
   ⟨"attack", "Attack time", "Set envelope attack time",
      [⟨"attack(time)", none, [⟨"time", "Attack time in seconds"⟩]⟩]⟩,
   ⟨"decay", "Decay time", "Set envelope decay time",
      [⟨"decay(time)", none, [⟨"time", "Decay time in seconds"⟩]⟩]⟩,
   ⟨"sustain", "Sustain level", "Set envelope sustain level",
      [⟨"sustain(level)", none, [⟨"level", "Sustain level (0-1)"⟩]⟩]⟩,
   ⟨"release", "Release time", "Set envelope release time",
      [⟨"release(time)", none, [⟨"time", "Release time in seconds"⟩]⟩]⟩,
   ⟨"begin", "Sample start", "Set sample playback start position",
      [⟨"begin(position)", none, [⟨"position", "Start position (0-1, 0 = beginning)"⟩]⟩]⟩,
   ⟨"end", "Sample end", "Set sample playback end position",
      [⟨"end(position)", none, [⟨"position", "End position (0-1, 1 = end)"⟩]⟩]⟩,
   ⟨"cut", "Cut group", "Stop other sounds in same cut group (like hi-hat choke)",
      [⟨"cut(group)", none, [⟨"group", "Cut group number"⟩]⟩]⟩,
   ⟨"chop", "Chop sample", "Chop sample into N parts for granular effects",
      [⟨"chop(parts)", none, [⟨"parts", "Number of parts to chop into"⟩]⟩]⟩,
   ⟨"slice", "Slice sample", "Slice sample and select which slice to play",
      [⟨"slice(total, which)", none, [⟨"total", "Total number of slices"⟩, ⟨"which", "Pattern of slice indices to play"⟩]⟩]⟩,
   ⟨"loopAt", "Loop at cycles", "Adjust sample speed to loop over N cycles",
      [⟨"loopAt(cycles)", none, [⟨"cycles", "Number of cycles for the loop"⟩]⟩]⟩,
   ⟨"fit", "Fit to cycle", "Fit sample to event duration",
      [⟨"fit()", none, []⟩]⟩,
   ⟨"striate", "Striate", "Granular time-stretch effect",
      [⟨"striate(parts)", none, [⟨"parts", "Number of parts to striate into"⟩]⟩]⟩,
   ⟨"orbit", "Effect bus", "Route to effect bus (for shared effects)",
      [⟨"orbit(bus)", none, [⟨"bus", "Effect bus number (0-11)"⟩]⟩]⟩,
   ⟨"hush", "Stop all sounds", "Emergency stop - silences all sounds immediately (panic button)",
      [⟨"hush()", none, []⟩]⟩,
   ⟨"setcps", "Set tempo", "Set the tempo in cycles per second. 1 = 1 cycle per second, 0.5 = 1 cycle every 2 seconds",
      [⟨"setcps(cps)", none, [⟨"cps", "Cycles per second (e.g., 0.5 for half speed, 2 for double speed)"⟩]⟩]⟩]

end PatternServer.Vocabulary.Functions
