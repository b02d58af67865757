import PatternServer.Vocabulary.HostFunction

/-!
# Host functions: effects

The entries for loops, modulation, filter envelopes, room and device control.
-/

namespace PatternServer.Vocabulary.Functions

set_option autoImplicit false
set_option maxRecDepth 8192

def effects : List HostFunction :=
  [⟨"chorus", "mix control for the chorus effect", "mix control for the chorus effect",
      [⟨"chorus(chorus)", none, [⟨"chorus", "mix amount between 0 and 1"⟩]⟩]⟩,
   ⟨"bpq", "Sets the **b**and-**p**ass **q**-factor (resonance)", "Sets the **b**and-**p**ass **q**-factor (resonance.",
      [⟨"bpq(q, amount)", none, [⟨"q", "q factor"⟩, ⟨"amount", "between 0 and 1, where 1 is the length of the sample"⟩]⟩]⟩,
   ⟨"loop", "Loops the sample", "Loops the sample. Note that the tempo of the loop is not synced with the cycle tempo. To change the loop region, use loopBegin / loopEnd.",
      [⟨"loop(on)", none, [⟨"on", "If 1, the sample is looped"⟩]⟩]⟩,
   ⟨"loopBegin", "Begin to loop at a specific point in the sample (inbetween `", "Begin to loop at a specific point in the sample (inbetween `begin` and `end`). Note that the loop point must be inbetween `begin` and `end`, and before `loopEnd`! Note: Samples starting with wt_ will automatically loop! (wt = wavetable).",
      [⟨"loopBegin(time)", none, [⟨"time", "between 0 and 1, where 1 is the length of the sample"⟩]⟩]⟩,
   ⟨"loopEnd", "End the looping section at a specific point in the sample (i", "End the looping section at a specific point in the sample (inbetween `begin` and `end`). Note that the loop point must be inbetween `begin` and `end`, and after `loopBegin`!.",
      [⟨"loopEnd(time)", none, [⟨"time", "between 0 and 1, where 1 is the length of the sample"⟩]⟩]⟩,
   ⟨"tremolosync", "Modulate the amplitude of a sound with a continuous waveform", "Modulate the amplitude of a sound with a continuous waveform.",
      [⟨"tremolosync(cycles)", none, [⟨"cycles", "modulation speed in cycles"⟩]⟩]⟩,
   ⟨"tremolodepth", "Depth of amplitude modulation", "Depth of amplitude modulation.",
      [⟨"tremolodepth(depth)", none, [⟨"depth", "* @example"⟩]⟩]⟩,
   ⟨"tremoloskew", "Alter the shape of the modulation waveform", "Alter the shape of the modulation waveform",
      [⟨"tremoloskew(amount)", none, [⟨"amount", "between 0 & 1, the shape of the waveform"⟩]⟩]⟩,
   ⟨"tremolophase", "Alter the phase of the modulation waveform", "Alter the phase of the modulation waveform",
      [⟨"tremolophase(offset)", none, [⟨"offset", "the offset in cycles of the modulation"⟩]⟩]⟩,
   ⟨"tremoloshape", "Shape of amplitude modulation", "Shape of amplitude modulation",
      [⟨"tremoloshape(shape)", none, [⟨"shape", "tri | square | sine | saw | ramp"⟩]⟩]⟩,
   ⟨"drive", "Filter overdrive for supported filter types", "Filter overdrive for supported filter types.",
      [⟨"drive(amount)", none, [⟨"amount", "* @example"⟩]⟩]⟩,
   ⟨"duckorbit", "Modulate the amplitude of an orbit to create a \"sidechain\" l", "Modulate the amplitude of an orbit to create a \"sidechain\" like effect. Can be applied to multiple orbits with the ':' mininotation.",
      [⟨"duckorbit(orbit)", none, [⟨"orbit", "target orbit"⟩]⟩]⟩,
   ⟨"duckdepth", "The amount of ducking applied to target orbit Can vary acros", "The amount of ducking applied to target orbit Can vary across orbits with the ':' mininotation.",
      [⟨"duckdepth(depth)", none, [⟨"depth", "depth of modulation from 0 to 1"⟩]⟩]⟩,
   ⟨"duckonset", "The time required for the ducked to reach their lowest volum", "The time required for the ducked to reach their lowest volume. Can be used to prevent clicking or for creative rhythmic effects. Can vary across orbits with the ':' mininotation.",
      [⟨"duckonset(time)", none, [⟨"time", "The onset time in seconds"⟩]⟩]⟩,
   ⟨"duckattack", "The time required for the ducked to return to their normal v", "The time required for the ducked to return to their normal volume. Can vary across orbits with the ':' mininotation.",
      [⟨"duckattack(time)", none, [⟨"time", "The attack time in seconds"⟩]⟩]⟩,
   ⟨"byteBeatExpression", "Create byte beats with custom expressions'", "Create byte beats with custom expressions')",
      [⟨"byteBeatExpression(byteBeatExpression)", none, [⟨"byteBeatExpression", "bitwise expression for creating bytebeat"⟩]⟩]⟩,
   ⟨"byteBeatStartTime", "Create byte beats with custom expressions", "Create byte beats with custom expressions.",
      [⟨"byteBeatStartTime(byteBeatStartTime)", none, [⟨"byteBeatStartTime", "in samples (t)"⟩]⟩]⟩,
   ⟨"channels", "Allows you to set the output channels on the interface", "Allows you to set the output channels on the interface",
      [⟨"channels(channels)", none, [⟨"channels", "pattern the output channels"⟩]⟩]⟩,
   ⟨"pw", "Controls the pulsewidth of the pulse oscillator", "Controls the pulsewidth of the pulse oscillator.",
      [⟨"pw(pulsewidth)", none, [⟨"pulsewidth", "* @example"⟩]⟩]⟩,
   ⟨"pwrate", "Controls the lfo rate for the pulsewidth of the pulse oscill", "Controls the lfo rate for the pulsewidth of the pulse oscillator.",
      [⟨"pwrate(rate)", none, [⟨"rate", "* @example"⟩]⟩]⟩,
   ⟨"pwsweep", "Controls the lfo sweep for the pulsewidth of the pulse oscil", "Controls the lfo sweep for the pulsewidth of the pulse oscillator.",
      [⟨"pwsweep(sweep)", none, [⟨"sweep", "* @example"⟩]⟩]⟩,
   ⟨"phasersweep", "The frequency sweep range of the lfo for the phaser effect", "The frequency sweep range of the lfo for the phaser effect. Defaults to 2000).",
      [⟨"phasersweep(phasersweep)", none, [⟨"phasersweep", "most useful values are between 0 and 4000"⟩]⟩]⟩,
   ⟨"phasercenter", "The center frequency of the phaser in HZ", "The center frequency of the phaser in HZ. Defaults to 1000).",
      [⟨"phasercenter(centerfrequency)", none, [⟨"centerfrequency", "in HZ"⟩]⟩]⟩,
   ⟨"phaserdepth", "The amount the signal is affected by the phaser effect", "The amount the signal is affected by the phaser effect. Defaults to 0.75).",
      [⟨"phaserdepth(depth, channel)", none, [⟨"depth", "number between 0 and 1"⟩, ⟨"channel", "channel number"⟩]⟩]⟩,
   ⟨"lpenv", "Sets the lowpass filter envelope modulation depth", "Sets the lowpass filter envelope modulation depth.",
      [⟨"lpenv(modulation)", none, [⟨"modulation", "depth of the lowpass filter envelope between 0 and _n_"⟩]⟩]⟩,
   ⟨"hpenv", "Sets the highpass filter envelope modulation depth", "Sets the highpass filter envelope modulation depth.",
      [⟨"hpenv(modulation)", none, [⟨"modulation", "depth of the highpass filter envelope between 0 and _n_"⟩]⟩]⟩,
   ⟨"bpenv", "Sets the bandpass filter envelope modulation depth", "Sets the bandpass filter envelope modulation depth.",
      [⟨"bpenv(modulation)", none, [⟨"modulation", "depth of the bandpass filter envelope between 0 and _n_"⟩]⟩]⟩,
   ⟨"lpattack", "Sets the attack duration for the lowpass filter envelope", "Sets the attack duration for the lowpass filter envelope.",
      [⟨"lpattack(attack)", none, [⟨"attack", "time of the filter envelope"⟩]⟩]⟩,
   ⟨"hpattack", "Sets the attack duration for the highpass filter envelope", "Sets the attack duration for the highpass filter envelope.",
      [⟨"hpattack(attack)", none, [⟨"attack", "time of the highpass filter envelope"⟩]⟩]⟩,
   ⟨"bpattack", "Sets the attack duration for the bandpass filter envelope", "Sets the attack duration for the bandpass filter envelope.",
      [⟨"bpattack(attack)", none, [⟨"attack", "time of the bandpass filter envelope"⟩]⟩]⟩,
   ⟨"lpdecay", "Sets the decay duration for the lowpass filter envelope", "Sets the decay duration for the lowpass filter envelope.",
      [⟨"lpdecay(decay)", none, [⟨"decay", "time of the filter envelope"⟩]⟩]⟩,
   ⟨"hpdecay", "Sets the decay duration for the highpass filter envelope", "Sets the decay duration for the highpass filter envelope.",
      [⟨"hpdecay(decay)", none, [⟨"decay", "time of the highpass filter envelope"⟩]⟩]⟩,
   ⟨"bpdecay", "Sets the decay duration for the bandpass filter envelope", "Sets the decay duration for the bandpass filter envelope.",
      [⟨"bpdecay(decay)", none, [⟨"decay", "time of the bandpass filter envelope"⟩]⟩]⟩,
   ⟨"lpsustain", "Sets the sustain amplitude for the lowpass filter envelope", "Sets the sustain amplitude for the lowpass filter envelope.",
      [⟨"lpsustain(sustain)", none, [⟨"sustain", "amplitude of the lowpass filter envelope"⟩]⟩]⟩,
   ⟨"hpsustain", "Sets the sustain amplitude for the highpass filter envelope", "Sets the sustain amplitude for the highpass filter envelope.",
      [⟨"hpsustain(sustain)", none, [⟨"sustain", "amplitude of the highpass filter envelope"⟩]⟩]⟩,
   ⟨"bpsustain", "Sets the sustain amplitude for the bandpass filter envelope", "Sets the sustain amplitude for the bandpass filter envelope.",
      [⟨"bpsustain(sustain)", none, [⟨"sustain", "amplitude of the bandpass filter envelope"⟩]⟩]⟩,
   ⟨"lprelease", "Sets the release time for the lowpass filter envelope", "Sets the release time for the lowpass filter envelope.",
      [⟨"lprelease(release)", none, [⟨"release", "time of the filter envelope"⟩]⟩]⟩,
   ⟨"hprelease", "Sets the release time for the highpass filter envelope", "Sets the release time for the highpass filter envelope.",
      [⟨"hprelease(release)", none, [⟨"release", "time of the highpass filter envelope"⟩]⟩]⟩,
   ⟨"bprelease", "Sets the release time for the bandpass filter envelope", "Sets the release time for the bandpass filter envelope.",
      [⟨"bprelease(release)", none, [⟨"release", "time of the bandpass filter envelope"⟩]⟩]⟩,
   ⟨"ftype", "Sets the filter type", "Sets the filter type. The ladder filter is more aggressive. More types might be added in the future.",
      [⟨"ftype(type)", none, [⟨"type", "12db (0), ladder (1), or 24db (2)"⟩]⟩]⟩,
   ⟨"fanchor", "controls the center of the filter envelope", "controls the center of the filter envelope. 0 is unipolar positive, .5 is bipolar, 1 is unipolar negative.",
      [⟨"fanchor(center)", none, [⟨"center", "0 to 1"⟩]⟩]⟩,
   ⟨"vibmod", "Sets the vibrato depth in semitones", "Sets the vibrato depth in semitones. Only has an effect if `vibrato` | `vib` | `v` is is also set . ._ // change the vibrato frequency with.",
      [⟨"vibmod(depth)", none, [⟨"depth", "of vibrato (in semitones)"⟩]⟩]⟩,
   ⟨"hpq", "Controls the **h**igh-**p**ass **q**-value", "Controls the **h**igh-**p**ass **q**-value.",
      [⟨"hpq(q)", none, [⟨"q", "resonance factor between 0 and 50"⟩]⟩]⟩,
   ⟨"lpq", "Controls the **l**ow-**p**ass **q**-value", "Controls the **l**ow-**p**ass **q**-value.",
      [⟨"lpq(q, cutoff)", none, [⟨"q", "resonance factor between 0 and 50"⟩, ⟨"cutoff", "below 0.5 is low pass filter, above is high pass filter"⟩]⟩]⟩,
   ⟨"delayspeed", "Sets the time of the delay effect", "Sets the time of the delay effect.",
      [⟨"delayspeed(delayspeed)", none, [⟨"delayspeed", "controls the pitch of the delay feedback"⟩]⟩]⟩,
   ⟨"delaysync", "Sets the time of the delay effect in cycles", "Sets the time of the delay effect in cycles.",
      [⟨"delaysync(cycles)", none, [⟨"cycles", "delay length in cycles"⟩]⟩]⟩,
   ⟨"lock", "Specifies whether delaytime is calculated relative to cps", "Specifies whether delaytime is calculated relative to cps.",
      [⟨"lock(enable)", none, [⟨"enable", "When set to 1, delaytime is a direct multiple of a cycle."⟩]⟩]⟩,
   ⟨"spread", "Set the stereo pan spread for supported oscillators", "Set the stereo pan spread for supported oscillators",
      [⟨"spread(spread)", none, [⟨"spread", "between 0 and 1"⟩]⟩]⟩,
   ⟨"dry", "Set dryness of reverb", "Set dryness of reverb. See `room` and `size` for more information about reverb.\".",
      [⟨"dry(dry)", none, [⟨"dry", "0 = wet, 1 = dry"⟩]⟩]⟩,
   ⟨"pattack", "Attack time of pitch envelope", "Attack time of pitch envelope.",
      [⟨"pattack(time)", none, [⟨"time", "time in seconds"⟩]⟩]⟩,
   ⟨"pdecay", "Decay time of pitch envelope", "Decay time of pitch envelope.",
      [⟨"pdecay(time)", none, [⟨"time", "time in seconds"⟩]⟩]⟩,
   ⟨"prelease", "Release time of pitch envelope ", "Release time of pitch envelope . // to hear the pitch release.",
      [⟨"prelease(time)", none, [⟨"time", "time in seconds"⟩]⟩]⟩,
   ⟨"penv", "Amount of pitch envelope", "Amount of pitch envelope. Negative values will flip the envelope. If you don't set other pitch envelope controls, `pattack:.2` will be the default.",
      [⟨"penv(semitones)", none, [⟨"semitones", "change in semitones"⟩]⟩]⟩,
   ⟨"pcurve", "Curve of envelope", "Curve of envelope. Defaults to linear. exponential is good for kicks.",
      [⟨"pcurve(type)", none, [⟨"type", "0 = linear, 1 = exponential"⟩]⟩]⟩,
   ⟨"panchor", "Sets the range anchor of the envelope: - anchor 0: range = [", "Sets the range anchor of the envelope: - anchor 0: range = [note, note + penv] - anchor 1: range = [note - penv, note] If you don't set an anchor, the value will default to the psustain value.",
      [⟨"panchor(anchor)", none, [⟨"anchor", "anchor offset"⟩]⟩]⟩,
   ⟨"lrate", "Rate of modulation for the leslie effect", "Rate of modulation / rotation for the leslie effect",
      [⟨"lrate(rate, meters)", none, [⟨"rate", "6.7 for fast, 0.7 for slow"⟩, ⟨"meters", "somewhere between 0 and 1"⟩]⟩]⟩,
   ⟨"label", "Sets the displayed text for an event on the pianoroll", "Sets the displayed text for an event on the pianoroll",
      [⟨"label(label)", none, [⟨"label", "text to display"⟩]⟩]⟩,
   ⟨"roomlp", "Reverb lowpass starting frequency (in hertz)", "Reverb lowpass starting frequency (in hertz). When this property is changed, the reverb will be recalculated, so only change this sparsely.",
      [⟨"roomlp(frequency)", none, [⟨"frequency", "between 0 and 20000hz"⟩]⟩]⟩,
   ⟨"roomdim", "Reverb lowpass frequency at -60dB (in hertz)", "Reverb lowpass frequency at -60dB (in hertz). When this property is changed, the reverb will be recalculated, so only change this sparsely.",
      [⟨"roomdim(frequency)", none, [⟨"frequency", "between 0 and 20000hz"⟩]⟩]⟩,
   ⟨"roomfade", "Reverb fade time (in seconds)", "Reverb fade time (in seconds). When this property is changed, the reverb will be recalculated, so only change this sparsely.",
      [⟨"roomfade(seconds)", none, [⟨"seconds", "for the reverb to fade"⟩]⟩]⟩,
   ⟨"iresponse", "Sets the sample to use as an impulse response for the reverb", "Sets the sample to use as an impulse response for the reverb.",
      [⟨"iresponse(sample)", none, [⟨"sample", "to use as an impulse response"⟩]⟩]⟩,
   ⟨"irspeed", "Sets speed of the sample for the impulse response", "Sets speed of the sample for the impulse response. $:.",
      [⟨"irspeed(speed)", none, [⟨"speed", "* @example"⟩]⟩]⟩,
   ⟨"irbegin", "Sets the beginning of the IR response sample $:", "Sets the beginning of the IR response sample $:.",
      [⟨"irbegin(begin)", none, [⟨"begin", "between 0 and 1"⟩]⟩]⟩,
   ⟨"roomsize", "Sets the room size of the reverb, see `room`", "Sets the room size of the reverb, see `room`. When this property is changed, the reverb will be recalculated, so only change this sparsely.",
      [⟨"roomsize(size, distortion)", none, [⟨"size", "between 0 and 10"⟩, ⟨"distortion", "between 0 and 1"⟩]⟩]⟩,
   ⟨"distortvol", "Postgain for waveshaping distortion", "Postgain for waveshaping distortion.",
      [⟨"distortvol(volume)", none, [⟨"volume", "linear postgain of the distortion"⟩]⟩]⟩,
   ⟨"distorttype", "Type of waveshaping distortion to apply", "Type of waveshaping distortion to apply.",
      [⟨"distorttype(type)", none, [⟨"type", "type of distortion to apply"⟩]⟩]⟩,
   ⟨"compressor", "Dynamics Compressor", "Dynamics Compressor. The params are `` More info [here](https://developer.mozilla.org/en-US/docs/Web/API/DynamicsCompressorNode?retiredLocale=de#instance_properties).",
      [⟨"compressor()", none, []⟩]⟩,
   ⟨"stretch", "Changes the speed of sample playback, i", "Changes the speed of sample playback, i.e. a cheap way of changing pitch.",
      [⟨"stretch(factor)", none, [⟨"factor", "-inf to inf, negative numbers play the sample backwards."⟩]⟩]⟩,
   ⟨"density", "Noise crackle density", "Noise crackle density)",
      [⟨"density(density)", none, [⟨"density", "between 0 and x"⟩]⟩]⟩,
   ⟨"duration", "Sets the duration of the event in cycles", "Sets the duration of the event in cycles. Similar to clip / legato, it also cuts samples off at the end if they exceed the duration.",
      [⟨"duration(seconds)", none, [⟨"seconds", ">= 0"⟩]⟩]⟩,
   ⟨"midicmd", "MIDI command: Sends a MIDI command message", "MIDI command: Sends a MIDI command message.",
      [⟨"midicmd(command)", none, [⟨"command", "MIDI command"⟩]⟩]⟩,
   ⟨"control", "MIDI control: Sends a MIDI control change message", "MIDI control: Sends a MIDI control change message.",
      [⟨"control(MIDI, MIDI)", none, [⟨"MIDI", "control number (0-127)"⟩, ⟨"MIDI", "controller value (0-127)"⟩]⟩]⟩,
   ⟨"nrpnn", "MIDI NRPN non-registered parameter number: Sends a MIDI NRPN", "MIDI NRPN non-registered parameter number: Sends a MIDI NRPN non-registered parameter number message.",
      [⟨"nrpnn(nrpnn)", none, [⟨"nrpnn", "MIDI NRPN non-registered parameter number (0-127)"⟩]⟩]⟩,
   ⟨"nrpv", "MIDI NRPN non-registered parameter value: Sends a MIDI NRPN ", "MIDI NRPN non-registered parameter value: Sends a MIDI NRPN non-registered parameter value message.",
      [⟨"nrpv(nrpv)", none, [⟨"nrpv", "MIDI NRPN non-registered parameter value (0-127)"⟩]⟩]⟩,
   ⟨"progNum", "MIDI program number: Sends a MIDI program change message", "MIDI program number: Sends a MIDI program change message.",
      [⟨"progNum(program)", none, [⟨"program", "MIDI program number (0-127)"⟩]⟩]⟩,
   ⟨"sysex", "MIDI sysex: Sends a MIDI sysex message", "MIDI sysex: Sends a MIDI sysex message.",
      [⟨"sysex(id, data)", none, [⟨"id", "Sysex ID"⟩, ⟨"data", "Sysex data"⟩]⟩]⟩,
   ⟨"sysexid", "MIDI sysex ID: Sends a MIDI sysex identifier message", "MIDI sysex ID: Sends a MIDI sysex identifier message.",
      [⟨"sysexid(id)", none, [⟨"id", "Sysex ID"⟩]⟩]⟩,
   ⟨"sysexdata", "MIDI sysex data: Sends a MIDI sysex message", "MIDI sysex data: Sends a MIDI sysex message.",
      [⟨"sysexdata(data)", none, [⟨"data", "Sysex data"⟩]⟩]⟩,
   ⟨"midibend", "MIDI pitch bend: Sends a MIDI pitch bend message", "MIDI pitch bend: Sends a MIDI pitch bend message.",
      [⟨"midibend(midibend)", none, [⟨"midibend", "MIDI pitch bend (-1 - 1)"⟩]⟩]⟩,
   ⟨"miditouch", "MIDI key after touch: Sends a MIDI key after touch message", "MIDI key after touch: Sends a MIDI key after touch message.",
      [⟨"miditouch(miditouch)", none, [⟨"miditouch", "MIDI key after touch (0-1)"⟩]⟩]⟩,
   ⟨"oschost", "The host to send open sound control messages to", "The host to send open sound control messages to. Requires running the OSC bridge.;",
      [⟨"oschost(oschost)", none, [⟨"oschost", "e.g. 'localhost'"⟩]⟩]⟩,
   ⟨"oscport", "The port to send open sound control messages to", "The port to send open sound control messages to. Requires running the OSC bridge.;",
      [⟨"oscport(oscport)", none, [⟨"oscport", "e.g. 57120"⟩]⟩]⟩]

end PatternServer.Vocabulary.Functions
