import PatternServer.Vocabulary.HostFunction

/-!
# Host functions: numbers

The entries for analysis, random choice, conversion and filter controls.
-/

namespace PatternServer.Vocabulary.Functions

set_option autoImplicit false
set_option maxRecDepth 8192

def numbers : List HostFunction :=
  [⟨"activeLabel", "Strudel function", "Strudel function. See strudel.cc for documentation.",
      [⟨"activeLabel(.", none, []⟩]⟩,
   ⟨"analyze", "Audio analysis", "Performs audio analysis (FFT) on the pattern.",
      [⟨"analyze(options)", none, [⟨"options", "Analysis options"⟩]⟩]⟩,
   ⟨"applyN", "Strudel function", "Strudel function. See strudel.cc for documentation.",
      [⟨"applyN(.", none, []⟩]⟩,
   ⟨"arpWith", "Arpeggiate with function", "Selects indices in stacked notes using a custom function. Experimental.",
      [⟨"arpWith(fn)", none, [⟨"fn", "Function that receives haps array and returns selected hap(s)"⟩]⟩]⟩,
   ⟨"backgroundImage", "Background image", "Sets a background image for visualization.",
      [⟨"backgroundImage(url)", none, [⟨"url", "Image URL"⟩]⟩]⟩,
   ⟨"band", "Strudel function", "Strudel function. See strudel.cc for documentation.",
      [⟨"band(.", none, []⟩]⟩,
   ⟨"bandf", "Synonym for bpf", "Bandpass filter center frequency. Synonym for bpf.",
      [⟨"bandf(frequency)", none, [⟨"frequency", "Center frequency in Hz"⟩]⟩]⟩,
   ⟨"bandq", "Synonym for bpq", "Bandpass filter Q-factor (resonance). Synonym for bpq.",
      [⟨"bandq(q)", none, [⟨"q", "Q-factor value"⟩]⟩]⟩,
   ⟨"base64ToUnicode", "Strudel function", "Strudel function. See strudel.cc for documentation.",
      [⟨"base64ToUnicode(.", none, []⟩]⟩,
   ⟨"bbexpr", "Strudel function", "Strudel function. See strudel.cc for documentation.",
      [⟨"bbexpr(.", none, []⟩]⟩,
   ⟨"bbst", "Strudel function", "Strudel function. See strudel.cc for documentation.",
      [⟨"bbst(.", none, []⟩]⟩,
   ⟨"berlinWith", "Strudel function", "Strudel function. See strudel.cc for documentation.",
      [⟨"berlinWith(.", none, []⟩]⟩,
   ⟨"bind", "Strudel function", "Strudel function. See strudel.cc for documentation.",
      [⟨"bind(.", none, []⟩]⟩,
   ⟨"binshift", "Strudel function", "Strudel function. See strudel.cc for documentation.",
      [⟨"binshift(.", none, []⟩]⟩,
   ⟨"bjork", "Bjorklund algorithm", "Creates Euclidean patterns using Bjorklund algorithm.",
      [⟨"bjork(pulses, steps)", none, [⟨"pulses", "Number of pulses"⟩, ⟨"steps", "Number of steps"⟩]⟩]⟩,
   ⟨"blshift", "Strudel function", "Strudel function. See strudel.cc for documentation.",
      [⟨"blshift(.", none, []⟩]⟩,
   ⟨"brak", "Breakbeat pattern", "Squashes the pattern to fit half a cycle, then plays it off-beat with the other half.",
      [⟨"brak(pat)", none, [⟨"pat", "Pattern to apply breakbeat effect to"⟩]⟩]⟩,
   ⟨"brshift", "Strudel function", "Strudel function. See strudel.cc for documentation.",
      [⟨"brshift(.", none, []⟩]⟩,
   ⟨"bxor", "Strudel function", "Strudel function. See strudel.cc for documentation.",
      [⟨"bxor(.", none, []⟩]⟩,
   ⟨"bypass", "Bypass effects", "Bypasses audio effects when true.",
      [⟨"bypass(toggle)", none, [⟨"toggle", "Bypass on/off"⟩]⟩]⟩,
   ⟨"calculateSteps", "Strudel function", "Strudel function. See strudel.cc for documentation.",
      [⟨"calculateSteps(.", none, []⟩]⟩,
   ⟨"channel", "MIDI channel", "Sets the MIDI channel for output (1-16.",
      [⟨"channel(n)", none, [⟨"n", "MIDI channel number (1-16)"⟩]⟩]⟩,
   ⟨"chooseIn", "Choose by input index", "Chooses from values based on input pattern.",
      [⟨"chooseIn(pat, ...xs)", none, [⟨"pat", "Pattern of indices"⟩]⟩]⟩,
   ⟨"chooseInWith", "Choose in with function", "Like chooseIn, but uses a custom function.",
      [⟨"chooseInWith(fn, ...xs)", none, [⟨"fn", "Function to determine selection"⟩]⟩]⟩,
   ⟨"chooseOut", "Choose from output", "Outputs a randomly chosen value from the list.",
      [⟨"chooseOut(...xs)", none, []⟩]⟩,
   ⟨"chooseWith", "Choose with function", "Like choose, but uses a custom function to pick from values.",
      [⟨"chooseWith(fn, ...xs)", none, [⟨"fn", "Function to determine selection"⟩]⟩]⟩,
   ⟨"chunkBack", "Chunk backwards", "Like chunk, but cycles through the parts in reverse order. Known as chunk' in TidalCycles.",
      [⟨"chunkBack(n, fn)", none, [⟨"n", "Number of parts to divide pattern into"⟩, ⟨"fn", "Function to apply to each part"⟩]⟩]⟩,
   ⟨"chunkback", "Chunk backwards", "Alias for chunkBack. Like chunk, but cycles through the parts in reverse order.",
      [⟨"chunkback(n, fn)", none, [⟨"n", "Number of parts to divide pattern into"⟩, ⟨"fn", "Function to apply to each part"⟩]⟩]⟩,
   ⟨"clamp", "Clamp value", "Clamps a value between min and max. Standard JavaScript utility.",
      [⟨"clamp(value, min, max)", none, [⟨"value", "Value to clamp"⟩, ⟨"min", "Minimum value"⟩, ⟨"max", "Maximum value"⟩]⟩]⟩,
   ⟨"code2hash", "Strudel function", "Strudel function. See strudel.cc for documentation.",
      [⟨"code2hash(.", none, []⟩]⟩,
   ⟨"comb", "Comb filter", "Applies a comb filter effect.",
      [⟨"comb(freq)", none, [⟨"freq", "Comb filter frequency"⟩]⟩]⟩,
   ⟨"constant", "Constant function", "Returns a function that always returns the given value. Functional programming utility.",
      [⟨"constant(value)", none, [⟨"value", "Value to always return"⟩]⟩]⟩,
   ⟨"contract", "Contract step size", "Contracts the step size of the pattern by the given factor. Experimental stepwise function. See also expand.",
      [⟨"contract(factor)", none, [⟨"factor", "Factor to contract steps by"⟩]⟩]⟩,
   ⟨"ctlNum", "MIDI control number", "Sets the MIDI control change number.",
      [⟨"ctlNum(n)", none, [⟨"n", "Control number (0-127)"⟩]⟩]⟩,
   ⟨"ctranspose", "Chromatic transpose", "Transposes note chromatically (in semitones.",
      [⟨"ctranspose(semitones)", none, [⟨"semitones", "Number of semitones to transpose"⟩]⟩]⟩,
   ⟨"curve", "Curve modifier", "Applies a curve transformation to values.",
      [⟨"curve(exponent)", none, [⟨"exponent", "Curve exponent"⟩]⟩]⟩,
   ⟨"cutoff", "Synonym for lpf", "Lowpass filter cutoff frequency. Synonym for lpf.",
      [⟨"cutoff(frequency)", none, [⟨"frequency", "Cutoff frequency in Hz (0-20000)"⟩]⟩]⟩,
   ⟨"cycleToSeconds", "Cycles to seconds", "Converts cycle time to seconds based on current tempo.",
      [⟨"cycleToSeconds(cycles)", none, [⟨"cycles", "Number of cycles"⟩]⟩]⟩,
   ⟨"degradeByWith", "Degrade with custom random", "Like degradeBy but uses a custom random function.",
      [⟨"degradeByWith(fn, amount)", none, [⟨"fn", "Random function"⟩, ⟨"amount", "Probability of removal (0-1)"⟩]⟩]⟩,
   ⟨"degree", "Scale degree", "Selects a scale degree from the current scale.",
      [⟨"degree(n)", none, [⟨"n", "Scale degree (1-based)"⟩]⟩]⟩,
   ⟨"deltaSlide", "Delta slide", "Adds pitch slide delta over time.",
      [⟨"deltaSlide(amount)", none, [⟨"amount", "Slide delta amount"⟩]⟩]⟩,
   ⟨"dict", "Voicing dictionary", "Sets the voicing dictionary to use for chord voicings.",
      [⟨"dict(name)", none, [⟨"name", "Dictionary name (e.g., \"lefthand\", \"ireal\")"⟩]⟩]⟩,
   ⟨"dictionary", "Strudel function", "Strudel function. See strudel.cc for documentation.",
      [⟨"dictionary(.", none, []⟩]⟩,
   ⟨"drawLine", "Draw line visualization", "Draws a line visualization of the pattern.",
      [⟨"drawLine(options)", none, [⟨"options", "Drawing options"⟩]⟩]⟩,
   ⟨"drop", "Drop steps", "Drops the given number of steps from a pattern. Positive drops from start, negative drops from end. Experimental stepwise function.",
      [⟨"drop(n)", none, [⟨"n", "Number of steps to drop (positive=start, negative=end)"⟩]⟩]⟩,
   ⟨"eish", "Strudel function", "Strudel function. See strudel.cc for documentation.",
      [⟨"eish(.", none, []⟩]⟩,
   ⟨"enhance", "Audio enhancer", "Enhances audio clarity/presence.",
      [⟨"enhance(amount)", none, [⟨"amount", "Enhancement amount"⟩]⟩]⟩,
   ⟨"euclidRot", "Euclidean rhythm with rotation", "Like euclid, but has an additional parameter for rotating the resulting sequence.",
      [⟨"euclidRot(pulses, steps, rotation)", none, [⟨"pulses", "Number of onsets/beats"⟩, ⟨"steps", "Number of steps to fill"⟩, ⟨"rotation", "Offset in steps"⟩]⟩]⟩,
   ⟨"euclidrot", "Euclidean rhythm with rotation", "Alias for euclidRot. Like euclid with rotation.",
      [⟨"euclidrot(pulses, steps, rotation)", none, [⟨"pulses", "Number of onsets/beats"⟩, ⟨"steps", "Number of steps to fill"⟩, ⟨"rotation", "Offset in steps"⟩]⟩]⟩,
   ⟨"expand", "Expand step size", "Expands the step size of the pattern by the given factor. Experimental stepwise function.",
      [⟨"expand(factor)", none, [⟨"factor", "Factor to expand steps by"⟩]⟩]⟩,
   ⟨"expression", "Strudel function", "Strudel function. See strudel.cc for documentation.",
      [⟨"expression(.", none, []⟩]⟩,
   ⟨"extend", "Extend pattern", "Like fast but also increases step count accordingly. Stepwise alternative to fast.",
      [⟨"extend(factor)", none, [⟨"factor", "Factor to extend by"⟩]⟩]⟩,
   ⟨"fadeInTime", "Fade in time", "Fade in time for the sound in seconds.",
      [⟨"fadeInTime(seconds)", none, [⟨"seconds", "Fade in duration"⟩]⟩]⟩,
   ⟨"fadeOutTime", "Fade out time", "Fade out time for the sound in seconds.",
      [⟨"fadeOutTime(seconds)", none, [⟨"seconds", "Fade out duration"⟩]⟩]⟩,
   ⟨"fadeTime", "Fade time", "Sets both fade in and fade out time.",
      [⟨"fadeTime(seconds)", none, [⟨"seconds", "Fade duration"⟩]⟩]⟩,
   ⟨"filter", "Filter pattern", "Filters events in a pattern based on a predicate function.",
      [⟨"filter(fn)", none, [⟨"fn", "Predicate function"⟩]⟩]⟩,
   ⟨"flatten", "Flatten array", "Flattens a nested array by one level. Standard JavaScript utility.",
      [⟨"flatten(array)", none, [⟨"array", "Array to flatten"⟩]⟩]⟩,
   ⟨"fmrelease", "FM release time", "FM synth release time.",
      [⟨"fmrelease(time)", none, [⟨"time", "Release time in seconds"⟩]⟩]⟩,
   ⟨"fmvelocity", "FM velocity sensitivity", "FM synth velocity sensitivity.",
      [⟨"fmvelocity(amount)", none, [⟨"amount", "Velocity sensitivity"⟩]⟩]⟩,
   ⟨"focusSpan", "Strudel function", "Strudel function. See strudel.cc for documentation.",
      [⟨"focusSpan(.", none, []⟩]⟩,
   ⟨"focusspan", "Strudel function", "Strudel function. See strudel.cc for documentation.",
      [⟨"focusspan(.", none, []⟩]⟩,
   ⟨"fractionalArgs", "Strudel function", "Strudel function. See strudel.cc for documentation.",
      [⟨"fractionalArgs(.", none, []⟩]⟩,
   ⟨"frameRate", "Frame rate", "Sets the visualization frame rate.",
      [⟨"frameRate(fps)", none, [⟨"fps", "Frames per second"⟩]⟩]⟩,
   ⟨"frames", "Frame count", "Sets the number of frames for visualization.",
      [⟨"frames(n)", none, [⟨"n", "Number of frames"⟩]⟩]⟩,
   ⟨"freqToMidi", "Frequency to MIDI", "Converts a frequency in Hz to a MIDI note number.",
      [⟨"freqToMidi(freq)", none, [⟨"freq", "Frequency in Hz"⟩]⟩]⟩,
   ⟨"fromBipolar", "Convert from bipolar", "Converts a bipolar value (-1 to 1) to unipolar (0 to 1.",
      [⟨"fromBipolar(value)", none, [⟨"value", "Bipolar value (-1 to 1)"⟩]⟩]⟩,
   ⟨"func", "Strudel function", "Strudel function. See strudel.cc for documentation.",
      [⟨"func(.", none, []⟩]⟩,
   ⟨"grow", "Grow pattern progressively", "Progressively grows the pattern by n steps until the full pattern is played. Positive grows from start, negative from end. Experimental.",
      [⟨"grow(n)", none, [⟨"n", "Number of steps to grow by each cycle"⟩]⟩]⟩,
   ⟨"harmonic", "Harmonic series", "Adds harmonic overtones to the sound.",
      [⟨"harmonic(n)", none, [⟨"n", "Harmonic number"⟩]⟩]⟩,
   ⟨"hash2code", "Strudel function", "Strudel function. See strudel.cc for documentation.",
      [⟨"hash2code(.", none, []⟩]⟩,
   ⟨"hbrick", "Strudel function", "Strudel function. See strudel.cc for documentation.",
      [⟨"hbrick(.", none, []⟩]⟩,
   ⟨"hcutoff", "Synonym for hpf", "Highpass filter cutoff frequency. Synonym for hpf.",
      [⟨"hcutoff(frequency)", none, [⟨"frequency", "Cutoff frequency in Hz (0-20000)"⟩]⟩]⟩,
   ⟨"hours", "Hours signal", "Returns the current time in hours.",
      [⟨"hours", none, []⟩]⟩,
   ⟨"hresonance", "Synonym for hpq", "Highpass filter resonance (Q-value). Synonym for hpq.",
      [⟨"hresonance(q)", none, [⟨"q", "Resonance factor (0-50)"⟩]⟩]⟩,
   ⟨"hsla", "HSLA color", "Sets visualization color in HSLA format.",
      [⟨"hsla(h, s, l, a)", none, [⟨"h", "Hue (0-360)"⟩, ⟨"s", "Saturation (0-100)"⟩, ⟨"l", "Lightness (0-100)"⟩, ⟨"a", "Alpha (0-1)"⟩]⟩]⟩,
   ⟨"imag", "Strudel function", "Strudel function. See strudel.cc for documentation.",
      [⟨"imag(.", none, []⟩]⟩,
   ⟨"kcutoff", "Strudel function", "Strudel function. See strudel.cc for documentation.",
      [⟨"kcutoff(.", none, []⟩]⟩,
   ⟨"keep", "Keep events", "Keeps only events that match the predicate.",
      [⟨"keep(fn)", none, [⟨"fn", "Predicate function"⟩]⟩]⟩,
   ⟨"keepif", "Keep if condition", "Keeps events only when condition is true.",
      [⟨"keepif(condition)", none, [⟨"condition", "Condition pattern"⟩]⟩]⟩,
   ⟨"krush", "Bit crush effect", "Bit-crusher distortion effect. Reduces bit depth.",
      [⟨"krush(amount)", none, [⟨"amount", "Crush amount (higher = more distortion)"⟩]⟩]⟩,
   ⟨"lbrick", "Strudel function", "Strudel function. See strudel.cc for documentation.",
      [⟨"lbrick(.", none, []⟩]⟩,
   ⟨"listRange", "Strudel function", "Strudel function. See strudel.cc for documentation.",
      [⟨"listRange(.", none, []⟩]⟩,
   ⟨"logger", "Strudel function", "Strudel function. See strudel.cc for documentation.",
      [⟨"logger(.", none, []⟩]⟩,
   ⟨"loopb", "Loop begin", "Sets the loop begin point for sample playback (0-1.",
      [⟨"loopb(pos)", none, [⟨"pos", "Loop begin position (0-1)"⟩]⟩]⟩,
   ⟨"loope", "Loop end", "Sets the loop end point for sample playback (0-1.",
      [⟨"loope(pos)", none, [⟨"pos", "Loop end position (0-1)"⟩]⟩]⟩,
   ⟨"lsize", "Strudel function", "Strudel function. See strudel.cc for documentation.",
      [⟨"lsize(.", none, []⟩]⟩,
   ⟨"mapArgs", "Strudel function", "Strudel function. See strudel.cc for documentation.",
      [⟨"mapArgs(.", none, []⟩]⟩,
   ⟨"midi2note", "MIDI to note name", "Converts a MIDI note number to a note name (e.g., 60 ->.",
      [⟨"midi2note(midi)", none, [⟨"midi", "MIDI note number (0-127)"⟩]⟩]⟩,
   ⟨"midiToFreq", "MIDI to frequency", "Converts a MIDI note number to frequency in Hz.",
      [⟨"midiToFreq(midi)", none, [⟨"midi", "MIDI note number"⟩]⟩]⟩,
   ⟨"midimap", "Strudel function", "Strudel function. See strudel.cc for documentation.",
      [⟨"midimap(.", none, []⟩]⟩,
   ⟨"mini", "Parse mini-notation", "Parses a mini-notation string and returns a pattern.",
      [⟨"mini(str)", none, [⟨"str", "Mini-notation string"⟩]⟩]⟩,
   ⟨"mini2ast", "Strudel function", "Strudel function. See strudel.cc for documentation.",
      [⟨"mini2ast(.", none, []⟩]⟩,
   ⟨"miniAllStrings", "Strudel function", "Strudel function. See strudel.cc for documentation.",
      [⟨"miniAllStrings(.", none, []⟩]⟩,
   ⟨"minify", "Strudel function", "Strudel function. See strudel.cc for documentation.",
      [⟨"minify(.", none, []⟩]⟩,
   ⟨"minutes", "Minutes signal", "Returns the current time in minutes.",
      [⟨"minutes", none, []⟩]⟩]

end PatternServer.Vocabulary.Functions
