import PatternServer.Vocabulary.HostFunction

/-!
# Host functions: steps

The entries for rounding, stepwise construction and the lower-case spellings.
-/

namespace PatternServer.Vocabulary.Functions

set_option autoImplicit false
set_option maxRecDepth 8192

def steps : List HostFunction :=
  [⟨"as", "Sets properties in a batch", "Sets properties in a batch. \"c:.5 a:1 f:.25 e:.8\".",
      [⟨"as(mapping)", none, [⟨"mapping", "the control names that are set"⟩]⟩]⟩,
   ⟨"scrub", "Allows you to scrub an audio file like a tape loop by passin", "Allows you to scrub an audio file like a tape loop by passing values that represents the position in the audio file in the optional array syntax ex: \"0.5:2\", the second value controls the speed of playback;)",
      [⟨"scrub()", none, []⟩]⟩,
   ⟨"euclidish", "A 'euclid' variant with an additional parameter that morphs ", "A 'euclid' variant with an additional parameter that morphs the resulting rhythm from 0 (no morphing) to 1 (completely 'even'). For example `` would be the same as ``, and `` would be the same as ``. `` would have a groove somewhere between. Inspired by the work of Malcom Braff.",
      [⟨"euclidish(pulses, steps, groove)", none, [⟨"pulses", "the number of onsets"⟩, ⟨"steps", "the number of steps to fill"⟩, ⟨"groove", "exists between the extremes of 0 (straight euclidian) and 1 (straight pulse)"⟩]⟩]⟩,
   ⟨"round", "Assumes a numerical pattern", "Assumes a numerical pattern. Returns a new pattern with all values rounded to the nearest integer.",
      [⟨"round()", none, []⟩]⟩,
   ⟨"floor", "Assumes a numerical pattern", "Assumes a numerical pattern. Returns a new pattern with all values set to their mathematical floor. E.g. `3.7` replaced with to `3`, and `-4.2` replaced with `-5`.",
      [⟨"floor()", none, []⟩]⟩,
   ⟨"ceil", "Assumes a numerical pattern", "Assumes a numerical pattern. Returns a new pattern with all values set to their mathematical ceiling. E.g. `3.2` replaced with `4`, and `-4.2` replaced with `-4`.",
      [⟨"ceil()", none, []⟩]⟩,
   ⟨"rangex", "Assumes a numerical pattern, containing unipolar values in t", "Assumes a numerical pattern, containing unipolar values in the range 0 .. 1 Returns a new pattern with values scaled to the given min/max range, following an exponential curve.",
      [⟨"rangex()", none, []⟩]⟩,
   ⟨"range2", "Assumes a numerical pattern, containing bipolar values in th", "Assumes a numerical pattern, containing bipolar values in the range -1 .. 1 Returns a new pattern with values scaled to the given min/max range.",
      [⟨"range2()", none, []⟩]⟩,
   ⟨"ratio", "Allows dividing numbers via list notation using \":\"", "Allows dividing numbers via list notation using \":\". Returns a new pattern with just numbers.",
      [⟨"ratio()", none, []⟩]⟩,
   ⟨"invert", "Swaps 1s and 0s in a binary pattern", "Swaps 1s and 0s in a binary pattern.",
      [⟨"invert()", none, []⟩]⟩,
   ⟨"echoWith", "Superimpose and offset multiple times, applying the given fu", "Superimpose and offset multiple times, applying the given function each time.",
      [⟨"echoWith(times, time, func)", none, [⟨"times", "how many times to repeat"⟩, ⟨"time", "cycle offset between iterations"⟩, ⟨"func", "function to apply, given the pattern and the iteration index"⟩]⟩]⟩,
   ⟨"plyWith", "The plyWith function repeats each event the given number of ", "The plyWith function repeats each event the given number of times, applying the given function to each event.\n.",
      [⟨"plyWith(factor, func)", none, [⟨"factor", "how many times to repeat"⟩, ⟨"func", "function to apply, given the pattern"⟩]⟩]⟩,
   ⟨"plyForEach", "The plyForEach function repeats each event the given number ", "The plyForEach function repeats each event the given number of times, applying the given function to each event. This version of ply uses the iteration index as an argument to the function, similar to echoWith.",
      [⟨"plyForEach(factor, func)", none, [⟨"factor", "how many times to repeat"⟩, ⟨"func", "function to apply, given the pattern and the iteration index"⟩]⟩]⟩,
   ⟨"repeatCycles", "Repeats each cycle the given number of times", "Repeats each cycle the given number of times.",
      [⟨"repeatCycles()", none, []⟩]⟩,
   ⟨"fastChunk", "Like `chunk`, but the cycles of the source pattern aren't re", "Like `chunk`, but the cycles of the source pattern aren't repeated for each set of chunks.",
      [⟨"fastChunk()", none, []⟩]⟩,
   ⟨"chunkInto", "Like `chunk`, but the function is applied to a looped subcyc", "Like `chunk`, but the function is applied to a looped subcycle of the source pattern.",
      [⟨"chunkInto()", none, []⟩]⟩,
   ⟨"chunkBackInto", "Like `chunkInto`, but moves backwards through the chunks", "Like `chunkInto`, but moves backwards through the chunks.",
      [⟨"chunkBackInto()", none, []⟩]⟩,
   ⟨"ribbon", "Loops the pattern inside an `offset` for `cycles`", "Loops the pattern inside an `offset` for `cycles`. If you think of the entire span of time in cycles as a ribbon, you can cut a single piece and loop it. // Looping a portion of randomness). // rhythm generator",
      [⟨"ribbon(offset, cycles)", none, [⟨"offset", "start point of loop in cycles"⟩, ⟨"cycles", "loop length in cycles"⟩]⟩]⟩,
   ⟨"tag", "Tags each Hap with an identifier", "Tags each Hap with an identifier. Good for filtering. The function populates Hap.context.tags (Array.",
      [⟨"tag(tag, test)", none, [⟨"tag", "anything unique"⟩, ⟨"test", "function to test Hap"⟩]⟩]⟩,
   ⟨"filterWhen", "Filters haps by their begin time", "Filters haps by their begin time",
      [⟨"filterWhen(test)", none, [⟨"test", "function to test Hap.whole.begin"⟩]⟩]⟩,
   ⟨"stepcat", "'Concatenates' patterns like `fastcat`, but proportional to ", "'Concatenates' patterns like `fastcat`, but proportional to a number of steps per cycle. The steps can either be inferred from the pattern, or provided as a [length, pattern] pair. Has the alias `timecat`. // the same as \"e3@3 g3\". // the same as.",
      [⟨"stepcat()", none, []⟩]⟩,
   ⟨"onTriggerTime", "make something happen on event time uses browser timeout whi", "make something happen on event time uses browser timeout which is innacurate for audio tasks",
      [⟨"onTriggerTime()", none, []⟩]⟩,
   ⟨"loopAtCps", "Makes the sample fit the given number of cycles and cps valu", "Makes the sample fit the given number of cycles and cps value, by changing the speed.",
      [⟨"loopAtCps()", none, []⟩]⟩,
   ⟨"xfade", "Cross-fades between left and right from 0 to 1: - 0 = (full ", "Cross-fades between left and right from 0 to 1: - 0 = (full left, no right) - .5 = (both equal) - 1 = (no left, full right), \"<0 .25 .5 .75 1>\",)",
      [⟨"xfade()", none, []⟩]⟩,
   ⟨"beat", "creates a structure pattern from divisions of a cycle especi", "creates a structure pattern from divisions of a cycle especially useful for creating rhythms",
      [⟨"beat()", none, []⟩]⟩,
   ⟨"inhabitmod", "The same as `inhabit`, but if you pick a number greater than", "The same as `inhabit`, but if you pick a number greater than the size of the list, it wraps around, rather than sticking at the maximum value. For example, if you pick the fifth pattern of a list of three, you'll get the second one.",
      [⟨"inhabitmod(pat)", none, [⟨"pat", "* @param \x7b*\x7d xs"⟩]⟩]⟩,
   ⟨"mousex", "The mouse's x position value ranges from 0 to 1", "The mouse's x position value ranges from 0 to 1.",
      [⟨"mousex()", none, []⟩]⟩,
   ⟨"brandBy", "A continuous pattern of 0 or 1 (binary random), with a proba", "A continuous pattern of 0 or 1 (binary random), with a probability for the value being 1)",
      [⟨"brandBy(probability)", none, [⟨"probability", "- a number between 0 and 1"⟩]⟩]⟩,
   ⟨"berlin", "Generates a continuous pattern of [berlin noise](conceived b", "Generates a continuous pattern of [berlin noise](conceived by Jame Coyne and Jade Rowland as a joke but turned out to be surprisingly cool and useful, like perlin noise but with sawtooth waves), in the range 0..1. // ascending arpeggios).",
      [⟨"berlin()", none, []⟩]⟩,
   ⟨"undegrade", "Inverse of `degrade`: Randomly removes 50% of events from th", "Inverse of `degrade`: Randomly removes 50% of events from the pattern. Shorthand for `.` Events that would be removed by degrade are let through by undegrade and vice versa (see second example)., x => x. )",
      [⟨"undegrade()", none, []⟩]⟩,
   ⟨"whenKey", "Do something on a keypress, or array of keypresses [Key name", "Do something on a keypress, or array of keypresses [Key name reference](https://developer.mozilla.org/en-US/docs/Web/API/UI_Events/Keyboard_event_key_values)\".",
      [⟨"whenKey()", none, []⟩]⟩,
   ⟨"keyDown", "returns true when a key or array of keys is held [Key name r", "returns true when a key or array of keys is held [Key name reference](https://developer.mozilla.org/en-US/docs/Web/API/UI_Events/Keyboard_event_key_values)\"),\")])",
      [⟨"keyDown()", none, []⟩]⟩,
   ⟨"addVoicings", "Adds a new custom voicing dictionary", "Adds a new custom voicing dictionary.",
      [⟨"addVoicings(name, dictionary, range)", none, [⟨"name", "identifier for the voicing dictionary"⟩, ⟨"dictionary", "maps chord symbol to possible voicings"⟩, ⟨"range", "min, max note"⟩]⟩]⟩,
   ⟨"chunkbackinto", "Alias for chunkBackInto", "Lowercase alias for chunkBackInto. See chunkBackInto for full documentation.",
      [⟨"chunkbackinto(.", none, []⟩]⟩,
   ⟨"chunkinto", "Alias for chunkInto", "Lowercase alias for chunkInto. See chunkInto for full documentation.",
      [⟨"chunkinto(.", none, []⟩]⟩,
   ⟨"echowith", "Alias for echoWith", "Lowercase alias for echoWith. See echoWith for full documentation.",
      [⟨"echowith(.", none, []⟩]⟩,
   ⟨"fastchunk", "Alias for fastChunk", "Lowercase alias for fastChunk. See fastChunk for full documentation.",
      [⟨"fastchunk(.", none, []⟩]⟩,
   ⟨"fastgap", "Alias for fastGap", "Lowercase alias for fastGap. See fastGap for full documentation.",
      [⟨"fastgap(.", none, []⟩]⟩,
   ⟨"iterback", "Alias for iterBack", "Lowercase alias for iterBack. See iterBack for full documentation.",
      [⟨"iterback(.", none, []⟩]⟩,
   ⟨"juxby", "Alias for juxBy", "Lowercase alias for juxBy. See juxBy for full documentation.",
      [⟨"juxby(.", none, []⟩]⟩,
   ⟨"loopat", "Alias for loopAt", "Lowercase alias for loopAt. See loopAt for full documentation.",
      [⟨"loopat(.", none, []⟩]⟩,
   ⟨"loopatcps", "Alias for loopAtCps", "Lowercase alias for loopAtCps. See loopAtCps for full documentation.",
      [⟨"loopatcps(.", none, []⟩]⟩]

end PatternServer.Vocabulary.Functions
