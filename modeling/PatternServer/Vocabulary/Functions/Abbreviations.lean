import PatternServer.Vocabulary.HostFunction

/-!
# Host functions: abbreviations

The entries for the short names of controls and operators.
-/

namespace PatternServer.Vocabulary.Functions

set_option autoImplicit false
set_option maxRecDepth 8192

def abbreviations : List HostFunction :=
  [⟨"and", "Bitwise AND", "Shorthand for bitwise AND.",
      [⟨"and(value)", none, [⟨"value", "Bitwise AND value"⟩]⟩]⟩,
   ⟨"att", "Attack", "Shorthand for attack.",
      [⟨"att(value)", none, [⟨"value", "Attack value"⟩]⟩]⟩,
   ⟨"bor", "Bitwise OR", "Shorthand for bitwise OR.",
      [⟨"bor(value)", none, [⟨"value", "Bitwise OR value"⟩]⟩]⟩,
   ⟨"bp", "Bandpass filter", "Shorthand for bandpass filter.",
      [⟨"bp(value)", none, [⟨"value", "Bandpass filter value"⟩]⟩]⟩,
   ⟨"bpa", "Bandpass attack", "Shorthand for bandpass attack.",
      [⟨"bpa(value)", none, [⟨"value", "Bandpass attack value"⟩]⟩]⟩,
   ⟨"bpd", "Bandpass decay", "Shorthand for bandpass decay.",
      [⟨"bpd(value)", none, [⟨"value", "Bandpass decay value"⟩]⟩]⟩,
   ⟨"bpe", "Bandpass env", "Shorthand for bandpass env.",
      [⟨"bpe(value)", none, [⟨"value", "Bandpass env value"⟩]⟩]⟩,
   ⟨"bpr", "Bandpass release", "Shorthand for bandpass release.",
      [⟨"bpr(value)", none, [⟨"value", "Bandpass release value"⟩]⟩]⟩,
   ⟨"bps", "Bandpass sustain", "Shorthand for bandpass sustain.",
      [⟨"bps(value)", none, [⟨"value", "Bandpass sustain value"⟩]⟩]⟩,
   ⟨"ch", "Channel", "Shorthand for channel.",
      [⟨"ch(value)", none, [⟨"value", "Channel value"⟩]⟩]⟩,
   ⟨"ctf", "Cutoff frequency", "Shorthand for cutoff frequency.",
      [⟨"ctf(value)", none, [⟨"value", "Cutoff frequency value"⟩]⟩]⟩,
   ⟨"dec", "Decay", "Shorthand for decay.",
      [⟨"dec(value)", none, [⟨"value", "Decay value"⟩]⟩]⟩,
   ⟨"det", "Detune", "Shorthand for detune.",
      [⟨"det(value)", none, [⟨"value", "Detune value"⟩]⟩]⟩,
   ⟨"dfb", "Delay feedback", "Shorthand for delay feedback.",
      [⟨"dfb(value)", none, [⟨"value", "Delay feedback value"⟩]⟩]⟩,
   ⟨"djf", "DJ filter", "Shorthand for DJ filter.",
      [⟨"djf(value)", none, [⟨"value", "DJ filter value"⟩]⟩]⟩,
   ⟨"ds", "Delay send", "Shorthand for delay send.",
      [⟨"ds(value)", none, [⟨"value", "Delay send value"⟩]⟩]⟩,
   ⟨"dt", "Delay time", "Shorthand for delay time.",
      [⟨"dt(value)", none, [⟨"value", "Delay time value"⟩]⟩]⟩,
   ⟨"e", "Euclidean pattern", "Shorthand for euclidean pattern.",
      [⟨"e(value)", none, [⟨"value", "Euclidean pattern value"⟩]⟩]⟩,
   ⟨"eq", "Equalizer", "Shorthand for equalizer.",
      [⟨"eq(value)", none, [⟨"value", "Equalizer value"⟩]⟩]⟩,
   ⟨"eqt", "EQ type", "Shorthand for EQ type.",
      [⟨"eqt(value)", none, [⟨"value", "EQ type value"⟩]⟩]⟩,
   ⟨"fft", "FFT analysis", "Shorthand for FFT analysis.",
      [⟨"fft(value)", none, [⟨"value", "FFT analysis value"⟩]⟩]⟩,
   ⟨"gap", "Gap/rest", "Shorthand for gap/rest.",
      [⟨"gap(value)", none, [⟨"value", "Gap/rest value"⟩]⟩]⟩,
   ⟨"gat", "Gate", "Shorthand for gate.",
      [⟨"gat(value)", none, [⟨"value", "Gate value"⟩]⟩]⟩,
   ⟨"gt", "Greater than", "Shorthand for greater than.",
      [⟨"gt(value)", none, [⟨"value", "Greater than value"⟩]⟩]⟩,
   ⟨"gte", "Greater than or equal", "Shorthand for greater than or equal.",
      [⟨"gte(value)", none, [⟨"value", "Greater than or equal value"⟩]⟩]⟩,
   ⟨"h", "Harmonic", "Shorthand for harmonic.",
      [⟨"h(value)", none, [⟨"value", "Harmonic value"⟩]⟩]⟩,
   ⟨"hp", "Highpass filter", "Shorthand for highpass filter.",
      [⟨"hp(value)", none, [⟨"value", "Highpass filter value"⟩]⟩]⟩,
   ⟨"hpa", "Highpass attack", "Shorthand for highpass attack.",
      [⟨"hpa(value)", none, [⟨"value", "Highpass attack value"⟩]⟩]⟩,
   ⟨"hpd", "Highpass decay", "Shorthand for highpass decay.",
      [⟨"hpd(value)", none, [⟨"value", "Highpass decay value"⟩]⟩]⟩,
   ⟨"hpe", "Highpass env", "Shorthand for highpass env.",
      [⟨"hpe(value)", none, [⟨"value", "Highpass env value"⟩]⟩]⟩,
   ⟨"hpr", "Highpass release", "Shorthand for highpass release.",
      [⟨"hpr(value)", none, [⟨"value", "Highpass release value"⟩]⟩]⟩,
   ⟨"hps", "Highpass sustain", "Shorthand for highpass sustain.",
      [⟨"hps(value)", none, [⟨"value", "Highpass sustain value"⟩]⟩]⟩,
   ⟨"hsl", "HSL color", "Shorthand for HSL color.",
      [⟨"hsl(value)", none, [⟨"value", "HSL color value"⟩]⟩]⟩,
   ⟨"id", "Identity function", "Returns its input unchanged. Functional programming utility.",
      [⟨"id(value)", none, [⟨"value", "Value to return"⟩]⟩]⟩,
   ⟨"inv", "Invert", "Shorthand for invert.",
      [⟨"inv(value)", none, [⟨"value", "Invert value"⟩]⟩]⟩,
   ⟨"ir", "Impulse response", "Shorthand for impulse response.",
      [⟨"ir(value)", none, [⟨"value", "Impulse response value"⟩]⟩]⟩,
   ⟨"lfo", "Low frequency oscillator", "Shorthand for low frequency oscillator.",
      [⟨"lfo(value)", none, [⟨"value", "Low frequency oscillator value"⟩]⟩]⟩,
   ⟨"lp", "Lowpass filter", "Shorthand for lowpass filter.",
      [⟨"lp(value)", none, [⟨"value", "Lowpass filter value"⟩]⟩]⟩,
   ⟨"lpa", "Lowpass attack", "Shorthand for lowpass attack.",
      [⟨"lpa(value)", none, [⟨"value", "Lowpass attack value"⟩]⟩]⟩,
   ⟨"lpd", "Lowpass decay", "Shorthand for lowpass decay.",
      [⟨"lpd(value)", none, [⟨"value", "Lowpass decay value"⟩]⟩]⟩,
   ⟨"lpe", "Lowpass env", "Shorthand for lowpass env.",
      [⟨"lpe(value)", none, [⟨"value", "Lowpass env value"⟩]⟩]⟩,
   ⟨"lpr", "Lowpass release", "Shorthand for lowpass release.",
      [⟨"lpr(value)", none, [⟨"value", "Lowpass release value"⟩]⟩]⟩,
   ⟨"lps", "Lowpass sustain", "Shorthand for lowpass sustain.",
      [⟨"lps(value)", none, [⟨"value", "Lowpass sustain value"⟩]⟩]⟩,
   ⟨"lt", "Less than", "Shorthand for less than.",
      [⟨"lt(value)", none, [⟨"value", "Less than value"⟩]⟩]⟩,
   ⟨"lte", "Less than or equal", "Shorthand for less than or equal.",
      [⟨"lte(value)", none, [⟨"value", "Less than or equal value"⟩]⟩]⟩,
   ⟨"m", "Mode/midi", "Shorthand for mode/midi.",
      [⟨"m(value)", none, [⟨"value", "Mode/midi value"⟩]⟩]⟩,
   ⟨"mod", "Modulation", "Shorthand for modulation.",
      [⟨"mod(value)", none, [⟨"value", "Modulation value"⟩]⟩]⟩,
   ⟨"ne", "Not equal", "Shorthand for not equal.",
      [⟨"ne(value)", none, [⟨"value", "Not equal value"⟩]⟩]⟩,
   ⟨"net", "Network", "Shorthand for network.",
      [⟨"net(value)", none, [⟨"value", "Network value"⟩]⟩]⟩,
   ⟨"or", "Bitwise OR", "Shorthand for bitwise OR.",
      [⟨"or(value)", none, [⟨"value", "Bitwise OR value"⟩]⟩]⟩,
   ⟨"ph", "Phase", "Shorthand for phase.",
      [⟨"ph(value)", none, [⟨"value", "Phase value"⟩]⟩]⟩,
   ⟨"phc", "Phaser center", "Shorthand for phaser center.",
      [⟨"phc(value)", none, [⟨"value", "Phaser center value"⟩]⟩]⟩,
   ⟨"phd", "Phaser depth", "Shorthand for phaser depth.",
      [⟨"phd(value)", none, [⟨"value", "Phaser depth value"⟩]⟩]⟩,
   ⟨"phs", "Phaser sweep", "Shorthand for phaser sweep.",
      [⟨"phs(value)", none, [⟨"value", "Phaser sweep value"⟩]⟩]⟩,
   ⟨"pm", "Phase modulation", "Shorthand for phase modulation.",
      [⟨"pm(value)", none, [⟨"value", "Phase modulation value"⟩]⟩]⟩,
   ⟨"pow", "Power", "Shorthand for power.",
      [⟨"pow(value)", none, [⟨"value", "Power value"⟩]⟩]⟩,
   ⟨"pr", "Pattern reference", "Shorthand for pattern reference.",
      [⟨"pr(value)", none, [⟨"value", "Pattern reference value"⟩]⟩]⟩,
   ⟨"ref", "Reference", "Shorthand for reference.",
      [⟨"ref(value)", none, [⟨"value", "Reference value"⟩]⟩]⟩,
   ⟨"rel", "Release", "Shorthand for release.",
      [⟨"rel(value)", none, [⟨"value", "Release value"⟩]⟩]⟩,
   ⟨"rib", "Ribbon controller", "Shorthand for ribbon controller.",
      [⟨"rib(value)", none, [⟨"value", "Ribbon controller value"⟩]⟩]⟩,
   ⟨"rlp", "Resonant lowpass", "Shorthand for resonant lowpass.",
      [⟨"rlp(value)", none, [⟨"value", "Resonant lowpass value"⟩]⟩]⟩,
   ⟨"seg", "Segment", "Shorthand for segment.",
      [⟨"seg(value)", none, [⟨"value", "Segment value"⟩]⟩]⟩,
   ⟨"src", "Source", "Shorthand for source.",
      [⟨"src(value)", none, [⟨"value", "Source value"⟩]⟩]⟩,
   ⟨"sus", "Sustain", "Shorthand for sustain.",
      [⟨"sus(value)", none, [⟨"value", "Sustain value"⟩]⟩]⟩,
   ⟨"sz", "Size", "Shorthand for size.",
      [⟨"sz(value)", none, [⟨"value", "Size value"⟩]⟩]⟩,
   ⟨"uid", "Unique id", "Shorthand for unique id.",
      [⟨"uid(value)", none, [⟨"value", "Unique id value"⟩]⟩]⟩,
   ⟨"v", "Velocity/value", "Shorthand for velocity/value.",
      [⟨"v(value)", none, [⟨"value", "Velocity/value value"⟩]⟩]⟩,
   ⟨"val", "Value", "Shorthand for value.",
      [⟨"val(value)", none, [⟨"value", "Value value"⟩]⟩]⟩,
   ⟨"zip", "Zip steps together", "Zips together the steps of provided patterns. Creates a dense cycle. Use pace() to control playback speed. Experimental.",
      [⟨"zip(...pats)", none, []⟩]⟩,
   ⟨"compose", "Compose functions", "Composes functions right-to-left. Functional programming utility.",
      [⟨"compose(...fns)", none, []⟩]⟩,
   ⟨"compressSpan", "Compress time span", "Compress time span.",
      [⟨"compressSpan(value)", none, [⟨"value", "Effect parameter value"⟩]⟩]⟩,
   ⟨"compressorAttack", "Compressor attack time", "Compressor attack time.",
      [⟨"compressorAttack(value)", none, [⟨"value", "Effect parameter value"⟩]⟩]⟩,
   ⟨"compressorKnee", "Compressor knee", "Compressor knee.",
      [⟨"compressorKnee(value)", none, [⟨"value", "Effect parameter value"⟩]⟩]⟩,
   ⟨"compressorRatio", "Compressor ratio", "Compressor ratio.",
      [⟨"compressorRatio(value)", none, [⟨"value", "Effect parameter value"⟩]⟩]⟩,
   ⟨"compressorRelease", "Compressor release time", "Compressor release time.",
      [⟨"compressorRelease(value)", none, [⟨"value", "Effect parameter value"⟩]⟩]⟩,
   ⟨"compressspan", "Compress time span", "Compress time span.",
      [⟨"compressspan(value)", none, [⟨"value", "Effect parameter value"⟩]⟩]⟩,
   ⟨"delayfb", "Delay feedback", "Delay feedback.",
      [⟨"delayfb(value)", none, [⟨"value", "Effect parameter value"⟩]⟩]⟩,
   ⟨"delayt", "Delay time", "Delay time.",
      [⟨"delayt(value)", none, [⟨"value", "Effect parameter value"⟩]⟩]⟩,
   ⟨"dist", "Distortion effect", "Distortion effect.",
      [⟨"dist(value)", none, [⟨"value", "Effect parameter value"⟩]⟩]⟩,
   ⟨"duck", "Ducking/sidechain compression", "Ducking/sidechain compression.",
      [⟨"duck(value)", none, [⟨"value", "Effect parameter value"⟩]⟩]⟩,
   ⟨"freeze", "Freeze/granular freeze effect", "Freeze/granular freeze effect.",
      [⟨"freeze(value)", none, [⟨"value", "Effect parameter value"⟩]⟩]⟩,
   ⟨"fshift", "Frequency shift", "Frequency shift.",
      [⟨"fshift(value)", none, [⟨"value", "Effect parameter value"⟩]⟩]⟩,
   ⟨"fshiftnote", "Frequency shift by note", "Frequency shift by note.",
      [⟨"fshiftnote(value)", none, [⟨"value", "Effect parameter value"⟩]⟩]⟩,
   ⟨"fshiftphase", "Frequency shift phase", "Frequency shift phase.",
      [⟨"fshiftphase(value)", none, [⟨"value", "Effect parameter value"⟩]⟩]⟩,
   ⟨"morph", "Morph between patterns", "Morph between patterns.",
      [⟨"morph(value)", none, [⟨"value", "Effect parameter value"⟩]⟩]⟩,
   ⟨"phaserrate", "Phaser rate", "Phaser rate.",
      [⟨"phaserrate(value)", none, [⟨"value", "Effect parameter value"⟩]⟩]⟩,
   ⟨"ring", "Ring modulation", "Ring modulation.",
      [⟨"ring(value)", none, [⟨"value", "Effect parameter value"⟩]⟩]⟩,
   ⟨"ringdf", "Ring modulator dry/wet", "Ring modulator dry/wet.",
      [⟨"ringdf(value)", none, [⟨"value", "Effect parameter value"⟩]⟩]⟩,
   ⟨"ringf", "Ring modulator frequency", "Ring modulator frequency.",
      [⟨"ringf(value)", none, [⟨"value", "Effect parameter value"⟩]⟩]⟩]

end PatternServer.Vocabulary.Functions
