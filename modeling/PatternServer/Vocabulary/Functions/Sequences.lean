import PatternServer.Vocabulary.HostFunction

/-!
# Host functions: sequences

The entries for picking, stacking, sliding and time-stretching of sequences.
-/

namespace PatternServer.Vocabulary.Functions

set_option autoImplicit false
set_option maxRecDepth 8192

def sequences : List HostFunction :=
  [⟨"mtranspose", "Modal transpose", "Transposes note within the current scale by scale degrees.",
      [⟨"mtranspose(degrees)", none, [⟨"degrees", "Number of scale degrees to transpose"⟩]⟩]⟩,
   ⟨"noteToMidi", "Note name to MIDI", "Converts a note name to a MIDI note number (e.g., \"C4\" -> 60.",
      [⟨"noteToMidi(note)", none, [⟨"note", "Note name (e.g., \"C4\", \"A#3\")"⟩]⟩]⟩,
   ⟨"numeralArgs", "Strudel function", "Strudel function. See strudel.cc for documentation.",
      [⟨"numeralArgs(.", none, []⟩]⟩,
   ⟨"octaveR", "Strudel function", "Strudel function. See strudel.cc for documentation.",
      [⟨"octaveR(.", none, []⟩]⟩,
   ⟨"octaves", "Strudel function", "Strudel function. See strudel.cc for documentation.",
      [⟨"octaves(.", none, []⟩]⟩,
   ⟨"octer", "Octave effect", "Octave effect/harmonizer that adds pitched copies of the sound.",
      [⟨"octer(amount)", none, [⟨"amount", "Effect amount"⟩]⟩]⟩,
   ⟨"octersub", "Octave sub effect", "Sub-octave level for the octer effect.",
      [⟨"octersub(amount)", none, [⟨"amount", "Sub-octave amount"⟩]⟩]⟩,
   ⟨"octersubsub", "Octave sub-sub effect", "Two-octave-down level for the octer effect.",
      [⟨"octersubsub(amount)", none, [⟨"amount", "Sub-sub-octave amount"⟩]⟩]⟩,
   ⟨"offset", "Time offset", "Offsets the pattern in time.",
      [⟨"offset(cycles)", none, [⟨"cycles", "Number of cycles to offset"⟩]⟩]⟩,
   ⟨"overgain", "Strudel function", "Strudel function. See strudel.cc for documentation.",
      [⟨"overgain(.", none, []⟩]⟩,
   ⟨"overshape", "Strudel function", "Strudel function. See strudel.cc for documentation.",
      [⟨"overshape(.", none, []⟩]⟩,
   ⟨"pace", "Set steps per cycle", "Speeds a pattern up or down to fit the given number of steps per cycle. Experimental stepwise function.",
      [⟨"pace(stepsPerCycle)", none, [⟨"stepsPerCycle", "Number of steps per cycle"⟩]⟩]⟩,
   ⟨"pairs", "Strudel function", "Strudel function. See strudel.cc for documentation.",
      [⟨"pairs(.", none, []⟩]⟩,
   ⟨"panorient", "Strudel function", "Strudel function. See strudel.cc for documentation.",
      [⟨"panorient(.", none, []⟩]⟩,
   ⟨"panspan", "Strudel function", "Strudel function. See strudel.cc for documentation.",
      [⟨"panspan(.", none, []⟩]⟩,
   ⟨"pansplay", "Strudel function", "Strudel function. See strudel.cc for documentation.",
      [⟨"pansplay(.", none, []⟩]⟩,
   ⟨"panwidth", "Strudel function", "Strudel function. See strudel.cc for documentation.",
      [⟨"panwidth(.", none, []⟩]⟩,
   ⟨"partials", "Partials control", "Controls the number of partials/harmonics in synthesis.",
      [⟨"partials(n)", none, [⟨"n", "Number of partials"⟩]⟩]⟩,
   ⟨"patt", "Synonym for pattack", "Pitch envelope attack time in seconds. Synonym for pattack.",
      [⟨"patt(time)", none, [⟨"time", "Attack time in seconds"⟩]⟩]⟩,
   ⟨"patternifyAST", "Strudel function", "Strudel function. See strudel.cc for documentation.",
      [⟨"patternifyAST(.", none, []⟩]⟩,
   ⟨"pdec", "Synonym for pdecay", "Pitch envelope decay time in seconds. Synonym for pdecay.",
      [⟨"pdec(time)", none, [⟨"time", "Decay time in seconds"⟩]⟩]⟩,
   ⟨"perlinWith", "Perlin with seed", "Generates Perlin noise with a custom seed function.",
      [⟨"perlinWith(fn)", none, [⟨"fn", "Seed function"⟩]⟩]⟩,
   ⟨"phasdp", "Synonym for phaserdepth", "Phaser effect depth (0-1). Synonym for phaserdepth.",
      [⟨"phasdp(depth)", none, [⟨"depth", "Depth value (0-1)"⟩]⟩]⟩,
   ⟨"pick", "Pick patterns by index/name", "Picks patterns from a list (by index) or lookup table (by name). Maintains structure of original patterns.",
      [⟨"pick(pat, xs)", none, [⟨"pat", "Pattern of indices or names"⟩, ⟨"xs", "Array or object of patterns to pick from"⟩]⟩]⟩,
   ⟨"pickReset", "Pick with reset", "Like pick, but resets the chosen pattern when its index is triggered.",
      [⟨"pickReset(pat, xs)", none, [⟨"pat", "Pattern of indices"⟩, ⟨"xs", "Array or object of patterns to pick from"⟩]⟩]⟩,
   ⟨"pickSqueeze", "Alias for inhabit", "Alias for inhabit. Picks patterns and squeezes cycles into the target pattern.",
      [⟨"pickSqueeze(pat, xs)", none, [⟨"pat", "Pattern of indices or names"⟩, ⟨"xs", "Array or object of patterns to pick from"⟩]⟩]⟩,
   ⟨"pickmod", "Pick with wrapping", "Like pick, but wraps around if index exceeds list size.",
      [⟨"pickmod(pat, xs)", none, [⟨"pat", "Pattern of indices"⟩, ⟨"xs", "Array of patterns to pick from"⟩]⟩]⟩,
   ⟨"pickmodF", "Pick functions with wrapping", "Like pickF, but wraps around if index exceeds list size.",
      [⟨"pickmodF(pat, lookup, fns)", none, [⟨"pat", "Pattern to transform"⟩, ⟨"lookup", "Pattern of indices"⟩, ⟨"fns", "Array of functions to pick from"⟩]⟩]⟩,
   ⟨"pickmodOut", "Strudel function", "Strudel function. See strudel.cc for documentation.",
      [⟨"pickmodOut(.", none, []⟩]⟩,
   ⟨"pickmodReset", "Pick with wrapping and reset", "Like pickReset, but wraps around if index exceeds list size.",
      [⟨"pickmodReset(pat, xs)", none, [⟨"pat", "Pattern of indices"⟩, ⟨"xs", "Array of patterns to pick from"⟩]⟩]⟩,
   ⟨"pickmodRestart", "Pick with wrapping and restart", "Like pickRestart, but wraps around if index exceeds list size.",
      [⟨"pickmodRestart(pat, xs)", none, [⟨"pat", "Pattern of indices"⟩, ⟨"xs", "Array of patterns to pick from"⟩]⟩]⟩,
   ⟨"pickmodSqueeze", "Alias for inhabitmod", "Alias for inhabitmod. Like inhabit with wrapping.",
      [⟨"pickmodSqueeze(pat, xs)", none, [⟨"pat", "Pattern of indices"⟩, ⟨"xs", "Array of patterns to pick from"⟩]⟩]⟩,
   ⟨"pitchJump", "Pitch jump", "Jumps the pitch by a specified amount.",
      [⟨"pitchJump(semitones)", none, [⟨"semitones", "Semitones to jump"⟩]⟩]⟩,
   ⟨"pitchJumpTime", "Pitch jump time", "Time at which pitch jump occurs.",
      [⟨"pitchJumpTime(time)", none, [⟨"time", "Time of pitch jump"⟩]⟩]⟩,
   ⟨"polyTouch", "Polyphonic aftertouch", "MIDI polyphonic aftertouch (key pressure.",
      [⟨"polyTouch(value)", none, [⟨"value", "Aftertouch value (0-127)"⟩]⟩]⟩,
   ⟨"polyrhythm", "Alias for stack", "Alias for stack. Plays items at the same time at the same length.",
      [⟨"polyrhythm(...items)", none, []⟩]⟩,
   ⟨"prel", "Synonym for prelease", "Pitch envelope release time in seconds. Synonym for prelease.",
      [⟨"prel(time)", none, [⟨"time", "Release time in seconds"⟩]⟩]⟩,
   ⟨"psus", "Pitch envelope sustain", "Pitch envelope sustain level.",
      [⟨"psus(level)", none, [⟨"level", "Sustain level (0-1)"⟩]⟩]⟩,
   ⟨"psustain", "Pitch envelope sustain", "Pitch envelope sustain level.",
      [⟨"psustain(level)", none, [⟨"level", "Sustain level (0-1)"⟩]⟩]⟩,
   ⟨"randrun", "Random run", "Creates a random sequence of numbers.",
      [⟨"randrun(n)", none, [⟨"n", "Length of sequence"⟩]⟩]⟩,
   ⟨"rate", "Playback rate", "Sample playback rate. 1 = normal, 2 = double speed, 0.5 = half speed.",
      [⟨"rate(speed)", none, [⟨"speed", "Playback rate multiplier"⟩]⟩]⟩,
   ⟨"rdim", "Synonym for roomdim", "Reverb lowpass frequency at -60dB in Hz. Synonym for roomdim.",
      [⟨"rdim(frequency)", none, [⟨"frequency", "Frequency in Hz (0-20000)"⟩]⟩]⟩,
   ⟨"real", "Strudel function", "Strudel function. See strudel.cc for documentation.",
      [⟨"real(.", none, []⟩]⟩,
   ⟨"repeatTime", "Repeat time", "Time interval for note repetition.",
      [⟨"repeatTime(time)", none, [⟨"time", "Repeat interval"⟩]⟩]⟩,
   ⟨"replicate", "Replicate events", "Replicates each event a specified number of times.",
      [⟨"replicate(n)", none, [⟨"n", "Number of replications"⟩]⟩]⟩,
   ⟨"resonance", "Synonym for lpq", "Lowpass filter resonance (Q-value). Synonym for lpq.",
      [⟨"resonance(q)", none, [⟨"q", "Resonance factor (0-50)"⟩]⟩]⟩,
   ⟨"rfade", "Synonym for roomfade", "Reverb fade time in seconds. Synonym for roomfade.",
      [⟨"rfade(seconds)", none, [⟨"seconds", "Fade time in seconds"⟩]⟩]⟩,
   ⟨"rotate", "Rotate pattern", "Rotates the pattern by a given number of steps.",
      [⟨"rotate(n)", none, [⟨"n", "Number of steps to rotate"⟩]⟩]⟩,
   ⟨"rsize", "Synonym for roomsize", "Reverb room size (0-10). Synonym for roomsize.",
      [⟨"rsize(size)", none, [⟨"size", "Room size (0-10)"⟩]⟩]⟩,
   ⟨"scaleTrans", "Strudel function", "Strudel function. See strudel.cc for documentation.",
      [⟨"scaleTrans(.", none, []⟩]⟩,
   ⟨"scram", "Strudel function", "Strudel function. See strudel.cc for documentation.",
      [⟨"scram(.", none, []⟩]⟩,
   ⟨"seconds", "Seconds signal", "Returns the current time in seconds.",
      [⟨"seconds", none, []⟩]⟩,
   ⟨"semitone", "Strudel function", "Strudel function. See strudel.cc for documentation.",
      [⟨"semitone(.", none, []⟩]⟩,
   ⟨"seqPLoop", "Strudel function", "Strudel function. See strudel.cc for documentation.",
      [⟨"seqPLoop(.", none, []⟩]⟩,
   ⟨"sequence", "Alias for seq", "Alias for seq/fastcat. Crams items into one cycle.",
      [⟨"sequence(...items)", none, []⟩]⟩,
   ⟨"sequenceP", "Strudel function", "Strudel function. See strudel.cc for documentation.",
      [⟨"sequenceP(.", none, []⟩]⟩,
   ⟨"shrink", "Shrink pattern progressively", "Progressively shrinks the pattern by n steps until nothing left. Positive shrinks from start, negative from end. Experimental.",
      [⟨"shrink(n)", none, [⟨"n", "Number of steps to shrink by each cycle"⟩]⟩]⟩,
   ⟨"shrinklist", "Strudel function", "Strudel function. See strudel.cc for documentation.",
      [⟨"shrinklist(.", none, []⟩]⟩,
   ⟨"signal", "Create continuous signal", "Creates a continuous signal pattern from a function of time.",
      [⟨"signal(fn)", none, [⟨"fn", "Function of time returning value"⟩]⟩]⟩,
   ⟨"slide", "Pitch slide", "Slides pitch between notes (portamento.",
      [⟨"slide(amount)", none, [⟨"amount", "Slide amount"⟩]⟩]⟩,
   ⟨"slowChunk", "Slow chunk", "Divides pattern into n parts, cycles through applying function to each part (one per cycle.",
      [⟨"slowChunk(n, fn)", none, [⟨"n", "Number of parts"⟩, ⟨"fn", "Function to apply"⟩]⟩]⟩,
   ⟨"slowcatPrime", "Strudel function", "Strudel function. See strudel.cc for documentation.",
      [⟨"slowcatPrime(.", none, []⟩]⟩,
   ⟨"slowchunk", "Alias for slowChunk", "Alias for slowChunk/chunk. Divides pattern into n parts, applies function to each.",
      [⟨"slowchunk(n, fn)", none, [⟨"n", "Number of parts"⟩, ⟨"fn", "Function to apply"⟩]⟩]⟩,
   ⟨"smear", "Strudel function", "Strudel function. See strudel.cc for documentation.",
      [⟨"smear(.", none, []⟩]⟩,
   ⟨"sol2note", "Strudel function", "Strudel function. See strudel.cc for documentation.",
      [⟨"sol2note(.", none, []⟩]⟩,
   ⟨"songPtr", "Strudel function", "Strudel function. See strudel.cc for documentation.",
      [⟨"songPtr(.", none, []⟩]⟩,
   ⟨"sparsity", "Alias for slow", "Alias for slow. Slows down a pattern over the given number of cycles.",
      [⟨"sparsity(factor)", none, [⟨"factor", "Slow down factor"⟩]⟩]⟩,
   ⟨"speak", "Speech synthesis", "Uses speech synthesis to speak the pattern values.",
      [⟨"speak(text)", none, [⟨"text", "Text to speak"⟩]⟩]⟩,
   ⟨"splice", "Splice sample", "Cuts a sample into slices and plays them according to the pattern.",
      [⟨"splice(n, pat)", none, [⟨"n", "Number of slices"⟩, ⟨"pat", "Pattern of slice indices"⟩]⟩]⟩,
   ⟨"splitAt", "Strudel function", "Strudel function. See strudel.cc for documentation.",
      [⟨"splitAt(.", none, []⟩]⟩,
   ⟨"squeeze", "Squeeze patterns by index", "Picks from a list of values/patterns via index. Selected pattern is compressed to fit the selecting event duration.",
      [⟨"squeeze(pat, xs)", none, [⟨"pat", "Pattern of indices"⟩, ⟨"xs", "Array of patterns to pick from"⟩]⟩]⟩,
   ⟨"stackBy", "Strudel function", "Strudel function. See strudel.cc for documentation.",
      [⟨"stackBy(.", none, []⟩]⟩,
   ⟨"stackCentre", "Strudel function", "Strudel function. See strudel.cc for documentation.",
      [⟨"stackCentre(.", none, []⟩]⟩,
   ⟨"stackLeft", "Strudel function", "Strudel function. See strudel.cc for documentation.",
      [⟨"stackLeft(.", none, []⟩]⟩,
   ⟨"stackRight", "Strudel function", "Strudel function. See strudel.cc for documentation.",
      [⟨"stackRight(.", none, []⟩]⟩,
   ⟨"steady", "Strudel function", "Strudel function. See strudel.cc for documentation.",
      [⟨"steady(.", none, []⟩]⟩,
   ⟨"stepalt", "Stepwise alternate", "Concatenates patterns stepwise. If an argument is a list, alternates between elements. Experimental.",
      [⟨"stepalt(...pats)", none, []⟩]⟩,
   ⟨"steps", "Alias for pace", "Alias for pace. Sets the number of steps per cycle. Experimental.",
      [⟨"steps(n)", none, [⟨"n", "Steps per cycle"⟩]⟩]⟩,
   ⟨"stepsPerOctave", "Strudel function", "Strudel function. See strudel.cc for documentation.",
      [⟨"stepsPerOctave(.", none, []⟩]⟩,
   ⟨"strans", "Strudel function", "Strudel function. See strudel.cc for documentation.",
      [⟨"strans(.", none, []⟩]⟩,
   ⟨"stringifyValues", "Strudel function", "Strudel function. See strudel.cc for documentation.",
      [⟨"stringifyValues(.", none, []⟩]⟩,
   ⟨"stutWith", "Echo with function", "Superimpose and offset multiple times, applying a function each iteration. Alias: echoWith.",
      [⟨"stutWith(times, time, fn)", none, [⟨"times", "Number of repetitions"⟩, ⟨"time", "Cycle offset between iterations"⟩, ⟨"fn", "Function to apply (receives pattern and index)"⟩]⟩]⟩,
   ⟨"stutwith", "Echo with function", "Alias for stutWith/echoWith. Superimpose and offset with function applied each iteration.",
      [⟨"stutwith(times, time, fn)", none, [⟨"times", "Number of repetitions"⟩, ⟨"time", "Cycle offset between iterations"⟩, ⟨"fn", "Function to apply"⟩]⟩]⟩,
   ⟨"sustainpedal", "Sustain pedal", "MIDI sustain pedal control.",
      [⟨"sustainpedal(value)", none, [⟨"value", "Pedal value (0-127)"⟩]⟩]⟩,
   ⟨"take", "Take steps", "Takes the given number of steps from a pattern. Positive takes from start, negative from end. Experimental stepwise function.",
      [⟨"take(n)", none, [⟨"n", "Number of steps to take (positive=start, negative=end)"⟩]⟩]⟩,
   ⟨"timeCat", "Alias for stepcat", "Alias for stepcat. Concatenates patterns proportionally to step count.",
      [⟨"timeCat(...pats)", none, []⟩]⟩,
   ⟨"timecat", "Alias for stepcat", "Alias for stepcat. Concatenates patterns proportionally to step count.",
      [⟨"timecat(...pats)", none, []⟩]⟩,
   ⟨"toBipolar", "Convert to bipolar", "Converts a unipolar value (0 to 1) to bipolar (-1 to 1.",
      [⟨"toBipolar(value)", none, [⟨"value", "Unipolar value (0 to 1)"⟩]⟩]⟩,
   ⟨"tokenizeNote", "Strudel function", "Strudel function. See strudel.cc for documentation.",
      [⟨"tokenizeNote(.", none, []⟩]⟩,
   ⟨"tour", "Tour through patterns", "Inserts a pattern into a list, moving backwards through the list on successive repetitions. Experimental stepwise function.",
      [⟨"tour(pat, ...pats)", none, []⟩]⟩,
   ⟨"trans", "Strudel function", "Strudel function. See strudel.cc for documentation.",
      [⟨"trans(.", none, []⟩]⟩,
   ⟨"triode", "Triode distortion", "Triode tube distortion effect.",
      [⟨"triode(amount)", none, [⟨"amount", "Distortion amount"⟩]⟩]⟩,
   ⟨"tsdelay", "Strudel function", "Strudel function. See strudel.cc for documentation.",
      [⟨"tsdelay(.", none, []⟩]⟩,
   ⟨"unicodeToBase64", "Strudel function", "Strudel function. See strudel.cc for documentation.",
      [⟨"unicodeToBase64(.", none, []⟩]⟩,
   ⟨"uniq", "Strudel function", "Strudel function. See strudel.cc for documentation.",
      [⟨"uniq(.", none, []⟩]⟩,
   ⟨"uniqsort", "Strudel function", "Strudel function. See strudel.cc for documentation.",
      [⟨"uniqsort(.", none, []⟩]⟩,
   ⟨"uniqsortr", "Strudel function", "Strudel function. See strudel.cc for documentation.",
      [⟨"uniqsortr(.", none, []⟩]⟩,
   ⟨"valueToMidi", "Strudel function", "Strudel function. See strudel.cc for documentation.",
      [⟨"valueToMidi(.", none, []⟩]⟩,
   ⟨"vmod", "Strudel function", "Strudel function. See strudel.cc for documentation.",
      [⟨"vmod(.", none, []⟩]⟩,
   ⟨"voice", "Voice control", "Selects a voice or algorithm for FM synth.",
      [⟨"voice(n)", none, [⟨"n", "Voice number or name"⟩]⟩]⟩,
   ⟨"voicingAlias", "Strudel function", "Strudel function. See strudel.cc for documentation.",
      [⟨"voicingAlias(.", none, []⟩]⟩,
   ⟨"warpatt", "Strudel function", "Strudel function. See strudel.cc for documentation.",
      [⟨"warpatt(.", none, []⟩]⟩,
   ⟨"warpdec", "Strudel function", "Strudel function. See strudel.cc for documentation.",
      [⟨"warpdec(.", none, []⟩]⟩,
   ⟨"warprel", "Strudel function", "Strudel function. See strudel.cc for documentation.",
      [⟨"warprel(.", none, []⟩]⟩,
   ⟨"warpsus", "Strudel function", "Strudel function. See strudel.cc for documentation.",
      [⟨"warpsus(.", none, []⟩]⟩,
   ⟨"wavetablePhaseRand", "Wavetable phase randomization", "Phase randomization for wavetable synthesis.",
      [⟨"wavetablePhaseRand(amount)", none, [⟨"amount", "Phase randomization amount"⟩]⟩]⟩,
   ⟨"wavetablePosition", "Wavetable position", "Position within the wavetable (0-1.",
      [⟨"wavetablePosition(pos)", none, [⟨"pos", "Position in wavetable (0-1)"⟩]⟩]⟩,
   ⟨"wavetableWarp", "Wavetable warp", "Warp/morph amount for wavetable.",
      [⟨"wavetableWarp(amount)", none, [⟨"amount", "Warp amount"⟩]⟩]⟩,
   ⟨"wavetableWarpMode", "Wavetable warp mode", "Warp mode for wavetable synthesis.",
      [⟨"wavetableWarpMode(mode)", none, [⟨"mode", "Warp mode"⟩]⟩]⟩,
   ⟨"wchooseCycles", "Weighted choose per cycle", "Picks one element at random each cycle with probability weights. Alias: wrandcat.",
      [⟨"wchooseCycles(...pairs)", none, []⟩]⟩,
   ⟨"withValue", "Strudel function", "Strudel function. See strudel.cc for documentation.",
      [⟨"withValue(.", none, []⟩]⟩,
   ⟨"wrandcat", "Alias for wchooseCycles", "Alias for wchooseCycles. Picks one element at random each cycle with probability weights.",
      [⟨"wrandcat(...pairs)", none, []⟩]⟩,
   ⟨"wtatt", "Strudel function", "Strudel function. See strudel.cc for documentation.",
      [⟨"wtatt(.", none, []⟩]⟩,
   ⟨"wtdec", "Strudel function", "Strudel function. See strudel.cc for documentation.",
      [⟨"wtdec(.", none, []⟩]⟩,
   ⟨"wtrel", "Strudel function", "Strudel function. See strudel.cc for documentation.",
      [⟨"wtrel(.", none, []⟩]⟩,
   ⟨"wtsus", "Strudel function", "Strudel function. See strudel.cc for documentation.",
      [⟨"wtsus(.", none, []⟩]⟩,
   ⟨"xsdelay", "Strudel function", "Strudel function. See strudel.cc for documentation.",
      [⟨"xsdelay(.", none, []⟩]⟩,
   ⟨"zcrush", "ZZFX crush", "ZZFX bit-crusher effect.",
      [⟨"zcrush(amount)", none, [⟨"amount", "Crush amount"⟩]⟩]⟩,
   ⟨"zdelay", "ZZFX delay", "ZZFX delay effect.",
      [⟨"zdelay(time)", none, [⟨"time", "Delay time"⟩]⟩]⟩,
   ⟨"zipWith", "Zip with function", "Zips patterns together applying a combining function to each pair of values.",
      [⟨"zipWith(fn, ...pats)", none, [⟨"fn", "Function to combine values"⟩]⟩]⟩,
   ⟨"zmod", "ZZFX modulation", "ZZFX modulation effect.",
      [⟨"zmod(amount)", none, [⟨"amount", "Modulation amount"⟩]⟩]⟩,
   ⟨"znoise", "ZZFX noise", "ZZFX noise effect.",
      [⟨"znoise(amount)", none, [⟨"amount", "Noise amount"⟩]⟩]⟩,
   ⟨"zoomArc", "Strudel function", "Strudel function. See strudel.cc for documentation.",
      [⟨"zoomArc(.", none, []⟩]⟩,
   ⟨"zoomarc", "Strudel function", "Strudel function. See strudel.cc for documentation.",
      [⟨"zoomarc(.", none, []⟩]⟩,
   ⟨"zrand", "ZZFX randomness", "ZZFX randomness effect.",
      [⟨"zrand(amount)", none, [⟨"amount", "Randomness amount"⟩]⟩]⟩,
   ⟨"zzfx", "ZZFX synthesizer", "ZZFX tiny sound synthesizer. Takes ZZFX parameter array.",
      [⟨"zzfx(...params)", none, []⟩]⟩]

end PatternServer.Vocabulary.Functions
