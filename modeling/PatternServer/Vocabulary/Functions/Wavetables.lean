import PatternServer.Vocabulary.HostFunction

/-!
# Host functions: wavetables

The entries for wavetables, warping and frequency modulation.
-/

namespace PatternServer.Vocabulary.Functions

set_option autoImplicit false
set_option maxRecDepth 8192

def wavetables : List HostFunction :=
  [⟨"granular", "Granular", "Apply granular synthesis",
      [⟨"granular(options)", none, [⟨"options", "Granular synthesis options"⟩]⟩]⟩,
   ⟨"wtenv", "Amount of envelope applied wavetable oscillator's position e", "Amount of envelope applied wavetable oscillator's position envelope",
      [⟨"wtenv(amount)", none, [⟨"amount", "between 0 and 1"⟩]⟩]⟩,
   ⟨"wtattack", "Attack time of the wavetable oscillator's position envelope", "Attack time of the wavetable oscillator's position envelope",
      [⟨"wtattack(time)", none, [⟨"time", "attack time in seconds"⟩]⟩]⟩,
   ⟨"wtdecay", "Decay time of the wavetable oscillator's position envelope", "Decay time of the wavetable oscillator's position envelope",
      [⟨"wtdecay(time)", none, [⟨"time", "decay time in seconds"⟩]⟩]⟩,
   ⟨"wtsustain", "Sustain time of the wavetable oscillator's position envelope", "Sustain time of the wavetable oscillator's position envelope",
      [⟨"wtsustain(gain)", none, [⟨"gain", "sustain level (0 to 1)"⟩]⟩]⟩,
   ⟨"wtrelease", "Release time of the wavetable oscillator's position envelope", "Release time of the wavetable oscillator's position envelope",
      [⟨"wtrelease(time)", none, [⟨"time", "release time in seconds"⟩]⟩]⟩,
   ⟨"wtrate", "Rate of the LFO for the wavetable oscillator's position", "Rate of the LFO for the wavetable oscillator's position",
      [⟨"wtrate(rate)", none, [⟨"rate", "rate in hertz"⟩]⟩]⟩,
   ⟨"wtsync", "cycle synced rate of the LFO for the wavetable oscillator's ", "cycle synced rate of the LFO for the wavetable oscillator's position",
      [⟨"wtsync(rate)", none, [⟨"rate", "rate in cycles"⟩]⟩]⟩,
   ⟨"wtdepth", "Depth of the LFO for the wavetable oscillator's position", "Depth of the LFO for the wavetable oscillator's position",
      [⟨"wtdepth(depth)", none, [⟨"depth", "depth of modulation"⟩]⟩]⟩,
   ⟨"wtshape", "Shape of the LFO for the wavetable oscillator's position", "Shape of the LFO for the wavetable oscillator's position",
      [⟨"wtshape(shape)", none, [⟨"shape", "Shape of the lfo (0, 1, 2,."⟩]⟩]⟩,
   ⟨"wtdc", "DC offset of the LFO for the wavetable oscillator's position", "DC offset of the LFO for the wavetable oscillator's position",
      [⟨"wtdc(dcoffset)", none, [⟨"dcoffset", "dc offset. set to 0 for unipolar"⟩]⟩]⟩,
   ⟨"wtskew", "Skew of the LFO for the wavetable oscillator's position", "Skew of the LFO for the wavetable oscillator's position",
      [⟨"wtskew(skew)", none, [⟨"skew", "How much to bend the LFO shape"⟩]⟩]⟩,
   ⟨"warp", "Amount of warp (alteration of the waveform) to apply to the ", "Amount of warp (alteration of the waveform) to apply to the wavetable oscillator.",
      [⟨"warp(amount)", none, [⟨"amount", "Warp of the wavetable from 0 to 1"⟩]⟩]⟩,
   ⟨"warpattack", "Attack time of the wavetable oscillator's warp envelope", "Attack time of the wavetable oscillator's warp envelope",
      [⟨"warpattack(time)", none, [⟨"time", "attack time in seconds"⟩]⟩]⟩,
   ⟨"warpdecay", "Decay time of the wavetable oscillator's warp envelope", "Decay time of the wavetable oscillator's warp envelope",
      [⟨"warpdecay(time)", none, [⟨"time", "decay time in seconds"⟩]⟩]⟩,
   ⟨"warpsustain", "Sustain time of the wavetable oscillator's warp envelope", "Sustain time of the wavetable oscillator's warp envelope",
      [⟨"warpsustain(gain)", none, [⟨"gain", "sustain level (0 to 1)"⟩]⟩]⟩,
   ⟨"warprelease", "Release time of the wavetable oscillator's warp envelope", "Release time of the wavetable oscillator's warp envelope",
      [⟨"warprelease(time)", none, [⟨"time", "release time in seconds"⟩]⟩]⟩,
   ⟨"warprate", "Rate of the LFO for the wavetable oscillator's warp", "Rate of the LFO for the wavetable oscillator's warp",
      [⟨"warprate(rate)", none, [⟨"rate", "rate in hertz"⟩]⟩]⟩,
   ⟨"warpdepth", "Depth of the LFO for the wavetable oscillator's warp", "Depth of the LFO for the wavetable oscillator's warp",
      [⟨"warpdepth(depth)", none, [⟨"depth", "depth of modulation"⟩]⟩]⟩,
   ⟨"warpshape", "Shape of the LFO for the wavetable oscillator's warp", "Shape of the LFO for the wavetable oscillator's warp",
      [⟨"warpshape(shape)", none, [⟨"shape", "Shape of the lfo (0, 1, 2,."⟩]⟩]⟩,
   ⟨"warpdc", "DC offset of the LFO for the wavetable oscillator's warp", "DC offset of the LFO for the wavetable oscillator's warp",
      [⟨"warpdc(dcoffset)", none, [⟨"dcoffset", "dc offset. set to 0 for unipolar"⟩]⟩]⟩,
   ⟨"warpskew", "Skew of the LFO for the wavetable oscillator's warp", "Skew of the LFO for the wavetable oscillator's warp",
      [⟨"warpskew(skew)", none, [⟨"skew", "How much to bend the LFO shape"⟩]⟩]⟩,
   ⟨"warpmode", "Type of warp (alteration of the waveform) to apply to the wa", "Type of warp (alteration of the waveform) to apply to the wavetable oscillator. The current options are: none, asym, bendp, bendm, bendmp, sync, quant, fold, pwm, orbit, spin, chaos, primes, binary, brownian, reciprocal, wormhole, logistic, sigmoid, fractal, flip.",
      [⟨"warpmode(mode)", none, [⟨"mode", "Warp mode"⟩]⟩]⟩,
   ⟨"wtphaserand", "Amount of randomness of the initial phase of the wavetable o", "Amount of randomness of the initial phase of the wavetable oscillator.",
      [⟨"wtphaserand(amount)", none, [⟨"amount", "Randomness of the initial phase. Between 0 (not random) and 1 (fully random)"⟩]⟩]⟩,
   ⟨"warpenv", "Amount of envelope applied wavetable oscillator's position e", "Amount of envelope applied wavetable oscillator's position envelope",
      [⟨"warpenv(amount)", none, [⟨"amount", "between 0 and 1"⟩]⟩]⟩,
   ⟨"warpsync", "cycle synced rate of the LFO for the wavetable warp position", "cycle synced rate of the LFO for the wavetable warp position",
      [⟨"warpsync(rate)", none, [⟨"rate", "rate in cycles"⟩]⟩]⟩,
   ⟨"source", "Define a custom webaudio node to use as a sound source", "Define a custom webaudio node to use as a sound source.",
      [⟨"source(getSource)", none, [⟨"getSource", "* @synonyms src"⟩]⟩]⟩,
   ⟨"accelerate", "A pattern of numbers that speed up (or slow down) samples wh", "A pattern of numbers that speed up (or slow down) samples while they play. Currently only supported by osc / superdirt.",
      [⟨"accelerate(amount)", none, [⟨"amount", "acceleration."⟩]⟩]⟩,
   ⟨"postgain", "Gain applied after all effects have been processed", "Gain applied after all effects have been processed.",
      [⟨"postgain()", none, []⟩]⟩,
   ⟨"fmenv", "Ramp type of fm envelope", "Ramp type of fm envelope. Exp might be a bit broken.",
      [⟨"fmenv(type)", none, [⟨"type", "lin | exp"⟩]⟩]⟩,
   ⟨"fmattack", "Attack time for the FM envelope: time it takes to reach maxi", "Attack time for the FM envelope: time it takes to reach maximum modulation.",
      [⟨"fmattack(time)", none, [⟨"time", "attack time"⟩]⟩]⟩,
   ⟨"fmwave", "Waveform of the fm modulator", "Waveform of the fm modulator.",
      [⟨"fmwave(wave)", none, [⟨"wave", "waveform"⟩]⟩]⟩,
   ⟨"fmdecay", "Decay time for the FM envelope: seconds until the sustain le", "Decay time for the FM envelope: seconds until the sustain level is reached after the attack phase.",
      [⟨"fmdecay(time)", none, [⟨"time", "decay time"⟩]⟩]⟩,
   ⟨"fmsustain", "Sustain level for the FM envelope: how much modulation is ap", "Sustain level for the FM envelope: how much modulation is applied after the decay phase.",
      [⟨"fmsustain(level)", none, [⟨"level", "sustain level"⟩]⟩]⟩]

end PatternServer.Vocabulary.Functions
