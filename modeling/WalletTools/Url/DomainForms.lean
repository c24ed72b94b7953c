import WalletTools.Text.CodeRanges

/-! How characters beyond ASCII stand in domain names: some are refused, some dropped, some stand for
other characters, and all others for themselves. -/
namespace WalletTools.Url

open Text

/-- Code points that no name holds. -/
def refusedPoints : CodeRanges :=
  #[(128, 159), (888, 889), (896, 899), (907, 907), (909, 909), (930, 930), (1328, 1328),
    (1367, 1368), (1419, 1420), (1424, 1424), (1480, 1487), (1515, 1518), (1525, 1541),
    (1564, 1564), (1757, 1757), (1806, 1807), (1867, 1868), (1970, 1983), (2043, 2044),
    (2094, 2095), (2111, 2111), (2140, 2141), (2143, 2143), (2155, 2159), (2192, 2198),
    (2274, 2274), (2436, 2436), (2445, 2446), (2449, 2450), (2473, 2473), (2481, 2481),
    (2483, 2485), (2490, 2491), (2501, 2502), (2505, 2506), (2511, 2518), (2520, 2523),
    (2526, 2526), (2532, 2533), (2559, 2560), (2564, 2564), (2571, 2574), (2577, 2578),
    (2601, 2601), (2609, 2609), (2612, 2612), (2615, 2615), (2618, 2619), (2621, 2621),
    (2627, 2630), (2633, 2634), (2638, 2640), (2642, 2648), (2653, 2653), (2655, 2661),
    (2679, 2688), (2692, 2692), (2702, 2702), (2706, 2706), (2729, 2729), (2737, 2737),
    (2740, 2740), (2746, 2747), (2758, 2758), (2762, 2762), (2766, 2767), (2769, 2783),
    (2788, 2789), (2802, 2808), (2816, 2816), (2820, 2820), (2829, 2830), (2833, 2834),
    (2857, 2857), (2865, 2865), (2868, 2868), (2874, 2875), (2885, 2886), (2889, 2890),
    (2894, 2900), (2904, 2907), (2910, 2910), (2916, 2917), (2936, 2945), (2948, 2948),
    (2955, 2957), (2961, 2961), (2966, 2968), (2971, 2971), (2973, 2973), (2976, 2978),
    (2981, 2983), (2987, 2989), (3002, 3005), (3011, 3013), (3017, 3017), (3022, 3023),
    (3025, 3030), (3032, 3045), (3067, 3071), (3085, 3085), (3089, 3089), (3113, 3113),
    (3130, 3131), (3141, 3141), (3145, 3145), (3150, 3156), (3159, 3159), (3163, 3163),
    (3166, 3167), (3172, 3173), (3184, 3190), (3213, 3213), (3217, 3217), (3241, 3241),
    (3252, 3252), (3258, 3259), (3269, 3269), (3273, 3273), (3278, 3284), (3287, 3291),
    (3295, 3295), (3300, 3301), (3312, 3312), (3316, 3327), (3341, 3341), (3345, 3345),
    (3397, 3397), (3401, 3401), (3408, 3411), (3428, 3429), (3456, 3456), (3460, 3460),
    (3479, 3481), (3506, 3506), (3516, 3516), (3518, 3519), (3527, 3529), (3531, 3534),
    (3541, 3541), (3543, 3543), (3552, 3557), (3568, 3569), (3573, 3584), (3643, 3646),
    (3676, 3712), (3715, 3715), (3717, 3717), (3723, 3723), (3748, 3748), (3750, 3750),
    (3774, 3775), (3781, 3781), (3783, 3783), (3791, 3791), (3802, 3803), (3808, 3839),
    (3912, 3912), (3949, 3952), (3992, 3992), (4029, 4029), (4045, 4045), (4059, 4095),
    (4294, 4294), (4296, 4300), (4302, 4303), (4681, 4681), (4686, 4687), (4695, 4695),
    (4697, 4697), (4702, 4703), (4745, 4745), (4750, 4751), (4785, 4785), (4790, 4791),
    (4799, 4799), (4801, 4801), (4806, 4807), (4823, 4823), (4881, 4881), (4886, 4887),
    (4955, 4956), (4989, 4991), (5018, 5023), (5110, 5111), (5118, 5119), (5760, 5760),
    (5789, 5791), (5881, 5887), (5910, 5918), (5943, 5951), (5972, 5983), (5997, 5997),
    (6001, 6001), (6004, 6015), (6110, 6111), (6122, 6127), (6138, 6143), (6170, 6175),
    (6265, 6271), (6315, 6319), (6390, 6399), (6431, 6431), (6444, 6447), (6460, 6463),
    (6465, 6467), (6510, 6511), (6517, 6527), (6572, 6575), (6602, 6607), (6619, 6621),
    (6684, 6685), (6751, 6751), (6781, 6782), (6794, 6799), (6810, 6815), (6830, 6831),
    (6878, 6879), (6892, 6911), (6989, 6989), (7156, 7163), (7224, 7226), (7242, 7244),
    (7307, 7311), (7355, 7356), (7368, 7375), (7419, 7423), (7958, 7959), (7966, 7967),
    (8006, 8007), (8014, 8015), (8024, 8024), (8026, 8026), (8028, 8028), (8030, 8030),
    (8062, 8063), (8117, 8117), (8133, 8133), (8148, 8149), (8156, 8156), (8176, 8177),
    (8181, 8181), (8191, 8191), (8206, 8207), (8228, 8230), (8232, 8238), (8293, 8297),
    (8306, 8307), (8335, 8335), (8349, 8351), (8386, 8399), (8433, 8447), (8588, 8591),
    (9258, 9279), (9291, 9311), (9352, 9371), (11124, 11125), (11508, 11512), (11558, 11558),
    (11560, 11564), (11566, 11567), (11624, 11630), (11633, 11646), (11671, 11679),
    (11687, 11687), (11695, 11695), (11703, 11703), (11711, 11711), (11719, 11719),
    (11727, 11727), (11735, 11735), (11743, 11743), (11870, 11903), (11930, 11930),
    (12020, 12031), (12246, 12287), (12352, 12352), (12439, 12440), (12544, 12548),
    (12592, 12592), (12687, 12687), (12774, 12783), (12831, 12831), (13250, 13250),
    (13255, 13255), (13272, 13272), (42125, 42127), (42183, 42191), (42540, 42559),
    (42744, 42751), (42973, 42992), (43053, 43055), (43066, 43071), (43128, 43135),
    (43206, 43213), (43226, 43231), (43348, 43358), (43389, 43391), (43470, 43470),
    (43482, 43485), (43519, 43519), (43575, 43583), (43598, 43599), (43610, 43611),
    (43715, 43738), (43767, 43776), (43783, 43784), (43791, 43792), (43799, 43807),
    (43815, 43815), (43823, 43823), (43884, 43887), (44014, 44015), (44026, 44031),
    (55204, 55215), (55239, 55242), (55292, 63743), (64110, 64111), (64218, 64255),
    (64263, 64274), (64280, 64284), (64311, 64311), (64317, 64317), (64319, 64319),
    (64322, 64322), (64325, 64325), (64976, 65007), (65042, 65042), (65049, 65055),
    (65072, 65072), (65106, 65107), (65127, 65127), (65132, 65135), (65141, 65141),
    (65277, 65278), (65280, 65280), (65471, 65473), (65480, 65481), (65488, 65489),
    (65496, 65497), (65501, 65503), (65511, 65511), (65519, 65535), (65548, 65548),
    (65575, 65575), (65595, 65595), (65598, 65598), (65614, 65615), (65630, 65663),
    (65787, 65791), (65795, 65798), (65844, 65846), (65935, 65935), (65949, 65951),
    (65953, 65999), (66046, 66175), (66205, 66207), (66257, 66271), (66300, 66303),
    (66340, 66348), (66379, 66383), (66427, 66431), (66462, 66462), (66500, 66503),
    (66518, 66559), (66718, 66719), (66730, 66735), (66772, 66775), (66812, 66815),
    (66856, 66863), (66916, 66926), (66939, 66939), (66955, 66955), (66963, 66963),
    (66966, 66966), (66978, 66978), (66994, 66994), (67002, 67002), (67005, 67007),
    (67060, 67071), (67383, 67391), (67414, 67423), (67432, 67455), (67462, 67462),
    (67505, 67505), (67515, 67583), (67590, 67591), (67593, 67593), (67638, 67638),
    (67641, 67643), (67645, 67646), (67670, 67670), (67743, 67750), (67760, 67807),
    (67827, 67827), (67830, 67834), (67868, 67870), (67898, 67902), (67930, 67967),
    (68024, 68027), (68048, 68049), (68100, 68100), (68103, 68107), (68116, 68116),
    (68120, 68120), (68150, 68151), (68155, 68158), (68169, 68175), (68185, 68191),
    (68256, 68287), (68327, 68330), (68343, 68351), (68406, 68408), (68438, 68439),
    (68467, 68471), (68498, 68504), (68509, 68520), (68528, 68607), (68681, 68735),
    (68787, 68799), (68851, 68857), (68904, 68911), (68922, 68927), (68966, 68968),
    (68998, 69005), (69008, 69215), (69247, 69247), (69290, 69290), (69294, 69295),
    (69298, 69313), (69320, 69327), (69337, 69369), (69416, 69423), (69466, 69487),
    (69514, 69551), (69580, 69599), (69623, 69631), (69710, 69713), (69750, 69758),
    (69821, 69821), (69827, 69839), (69865, 69871), (69882, 69887), (69941, 69941),
    (69960, 69967), (70007, 70015), (70112, 70112), (70133, 70143), (70162, 70162),
    (70210, 70271), (70279, 70279), (70281, 70281), (70286, 70286), (70302, 70302),
    (70314, 70319), (70379, 70383), (70394, 70399), (70404, 70404), (70413, 70414),
    (70417, 70418), (70441, 70441), (70449, 70449), (70452, 70452), (70458, 70458),
    (70469, 70470), (70473, 70474), (70478, 70479), (70481, 70486), (70488, 70492),
    (70500, 70501), (70509, 70511), (70517, 70527), (70538, 70538), (70540, 70541),
    (70543, 70543), (70582, 70582), (70593, 70593), (70595, 70596), (70598, 70598),
    (70603, 70603), (70614, 70614), (70617, 70624), (70627, 70655), (70748, 70748),
    (70754, 70783), (70856, 70863), (70874, 71039), (71094, 71095), (71134, 71167),
    (71237, 71247), (71258, 71263), (71277, 71295), (71354, 71359), (71370, 71375),
    (71396, 71423), (71451, 71452), (71468, 71471), (71495, 71679), (71740, 71839),
    (71923, 71934), (71943, 71944), (71946, 71947), (71956, 71956), (71959, 71959),
    (71990, 71990), (71993, 71994), (72007, 72015), (72026, 72095), (72104, 72105),
    (72152, 72153), (72165, 72191), (72264, 72271), (72355, 72367), (72441, 72447),
    (72458, 72543), (72552, 72639), (72674, 72687), (72698, 72703), (72713, 72713),
    (72759, 72759), (72774, 72783), (72813, 72815), (72848, 72849), (72872, 72872),
    (72887, 72959), (72967, 72967), (72970, 72970), (73015, 73017), (73019, 73019),
    (73022, 73022), (73032, 73039), (73050, 73055), (73062, 73062), (73065, 73065),
    (73103, 73103), (73106, 73106), (73113, 73119), (73130, 73135), (73180, 73183),
    (73194, 73439), (73465, 73471), (73489, 73489), (73531, 73533), (73563, 73647),
    (73649, 73663), (73714, 73726), (74650, 74751), (74863, 74863), (74869, 74879),
    (75076, 77711), (77811, 77823), (78896, 78911), (78934, 78943), (82939, 82943),
    (83527, 90367), (90426, 92159), (92729, 92735), (92767, 92767), (92778, 92781),
    (92863, 92863), (92874, 92879), (92910, 92911), (92918, 92927), (92998, 93007),
    (93018, 93018), (93026, 93026), (93048, 93052), (93072, 93503), (93562, 93759),
    (93851, 93855), (93881, 93882), (93908, 93951), (94027, 94030), (94088, 94094),
    (94112, 94175), (94181, 94191), (94199, 94207), (101590, 101630), (101663, 101759),
    (101875, 110575), (110580, 110580), (110588, 110588), (110591, 110591), (110883, 110897),
    (110899, 110927), (110931, 110932), (110934, 110947), (110952, 110959), (111356, 113663),
    (113771, 113775), (113789, 113791), (113801, 113807), (113818, 113819), (113828, 117759),
    (118013, 118015), (118452, 118457), (118481, 118495), (118513, 118527), (118574, 118575),
    (118599, 118607), (118724, 118783), (119030, 119039), (119079, 119080), (119275, 119295),
    (119366, 119487), (119508, 119519), (119540, 119551), (119639, 119647), (119673, 119807),
    (119893, 119893), (119965, 119965), (119968, 119969), (119971, 119972), (119975, 119976),
    (119981, 119981), (119994, 119994), (119996, 119996), (120004, 120004), (120070, 120070),
    (120075, 120076), (120085, 120085), (120093, 120093), (120122, 120122), (120127, 120127),
    (120133, 120133), (120135, 120137), (120145, 120145), (120486, 120487), (120780, 120781),
    (121484, 121498), (121504, 121504), (121520, 122623), (122655, 122660), (122667, 122879),
    (122887, 122887), (122905, 122906), (122914, 122914), (122917, 122917), (122923, 122927),
    (122990, 123022), (123024, 123135), (123181, 123183), (123198, 123199), (123210, 123213),
    (123216, 123535), (123567, 123583), (123642, 123646), (123648, 124111), (124154, 124367),
    (124411, 124414), (124416, 124607), (124639, 124639), (124662, 124669), (124672, 124895),
    (124903, 124903), (124908, 124908), (124911, 124911), (124927, 124927), (125125, 125126),
    (125143, 125183), (125260, 125263), (125274, 125277), (125280, 126064), (126133, 126208),
    (126270, 126463), (126468, 126468), (126496, 126496), (126499, 126499), (126501, 126502),
    (126504, 126504), (126515, 126515), (126520, 126520), (126522, 126522), (126524, 126529),
    (126531, 126534), (126536, 126536), (126538, 126538), (126540, 126540), (126544, 126544),
    (126547, 126547), (126549, 126550), (126552, 126552), (126554, 126554), (126556, 126556),
    (126558, 126558), (126560, 126560), (126563, 126563), (126565, 126566), (126571, 126571),
    (126579, 126579), (126584, 126584), (126589, 126589), (126591, 126591), (126602, 126602),
    (126620, 126624), (126628, 126628), (126634, 126634), (126652, 126703), (126706, 126975),
    (127020, 127023), (127124, 127135), (127151, 127152), (127168, 127168), (127184, 127184),
    (127222, 127232), (127406, 127461), (127491, 127503), (127548, 127551), (127561, 127567),
    (127570, 127583), (127590, 127743), (128729, 128731), (128749, 128751), (128765, 128767),
    (128986, 128991), (129004, 129007), (129009, 129023), (129036, 129039), (129096, 129103),
    (129114, 129119), (129160, 129167), (129198, 129199), (129212, 129215), (129218, 129231),
    (129241, 129279), (129624, 129631), (129646, 129647), (129661, 129663), (129675, 129677),
    (129735, 129735), (129737, 129740), (129757, 129758), (129771, 129774), (129785, 129791),
    (129939, 129939), (130043, 131071), (173792, 173823), (178206, 178207), (183982, 183983),
    (191457, 191471), (192094, 194559), (195102, 196607), (201547, 201551), (210042, 917759),
    (918000, 1114111)]

/-- Code points that a name is read without. -/
def droppedPoints : CodeRanges :=
  #[(173, 173), (847, 847), (4447, 4448), (6068, 6069), (6155, 6159), (8203, 8203),
    (8288, 8292), (8298, 8303), (12644, 12644), (65024, 65039), (65279, 65279), (65440, 65440),
    (113824, 113827), (119155, 119162), (917760, 917999)]

/-- Ranges of code points that stand for characters at a fixed distance. -/
def shiftedPoints : Array (Nat × Nat × Int) :=
  #[(160, 160, -128), (170, 170, -73), (178, 179, -128), (185, 185, -136), (186, 186, -75),
    (383, 383, -268), (688, 688, -584), (690, 690, -584), (691, 691, -577), (695, 695, -576),
    (696, 696, -575), (737, 737, -629), (738, 738, -623), (739, 739, -619), (837, 837, 116),
    (894, 894, -835), (7468, 7468, -7371), (7470, 7470, -7372), (7472, 7473, -7372),
    (7475, 7482, -7372), (7484, 7484, -7373), (7486, 7486, -7374), (7487, 7487, -7373),
    (7488, 7489, -7372), (7490, 7490, -7371), (7491, 7491, -7394), (7495, 7495, -7397),
    (7496, 7497, -7396), (7501, 7501, -7398), (7503, 7503, -7396), (7504, 7504, -7395),
    (7506, 7506, -7395), (7510, 7510, -7398), (7511, 7512, -7395), (7515, 7515, -7397),
    (7522, 7522, -7417), (7523, 7523, -7409), (7524, 7525, -7407), (7580, 7580, -7481),
    (7584, 7584, -7482), (7611, 7611, -7489), (8175, 8175, -8079), (8192, 8192, -8160),
    (8193, 8193, -8161), (8194, 8194, -8162), (8195, 8195, -8163), (8196, 8196, -8164),
    (8197, 8197, -8165), (8198, 8198, -8166), (8199, 8199, -8167), (8200, 8200, -8168),
    (8201, 8201, -8169), (8202, 8202, -8170), (8239, 8239, -8207), (8287, 8287, -8255),
    (8304, 8304, -8256), (8305, 8305, -8200), (8308, 8313, -8256), (8314, 8314, -8271),
    (8316, 8316, -8255), (8317, 8318, -8277), (8319, 8319, -8209), (8320, 8329, -8272),
    (8330, 8330, -8287), (8332, 8332, -8271), (8333, 8334, -8293), (8336, 8336, -8239),
    (8337, 8337, -8236), (8338, 8338, -8227), (8339, 8339, -8219), (8341, 8341, -8237),
    (8342, 8345, -8235), (8346, 8346, -8234), (8347, 8348, -8232), (8450, 8450, -8351),
    (8458, 8459, -8355), (8460, 8460, -8356), (8461, 8461, -8357), (8462, 8462, -8358),
    (8464, 8464, -8359), (8465, 8465, -8360), (8466, 8466, -8358), (8467, 8467, -8359),
    (8469, 8469, -8359), (8473, 8475, -8361), (8476, 8476, -8362), (8477, 8477, -8363),
    (8484, 8484, -8362), (8488, 8488, -8366), (8490, 8490, -8383), (8492, 8493, -8394),
    (8495, 8495, -8394), (8496, 8497, -8395), (8499, 8499, -8390), (8500, 8500, -8389),
    (8501, 8504, -7013), (8505, 8505, -8400), (8517, 8517, -8417), (8518, 8519, -8418),
    (8520, 8521, -8415), (8544, 8544, -8439), (8548, 8548, -8430), (8553, 8553, -8433),
    (8556, 8556, -8448), (8557, 8558, -8458), (8559, 8559, -8450), (8560, 8560, -8455),
    (8564, 8564, -8446), (8569, 8569, -8449), (8572, 8572, -8464), (8573, 8574, -8474),
    (8575, 8575, -8466), (9312, 9320, -9263), (9398, 9423, -9301), (9424, 9449, -9327),
    (9450, 9450, -9402), (11388, 11388, -11282), (11389, 11389, -11271),
    (12288, 12288, -12256), (12290, 12290, -12244), (42993, 42993, -42878),
    (42994, 42994, -42895), (42995, 42995, -42893), (42996, 42996, -42883),
    (64297, 64297, -64254), (65040, 65040, -64996), (65043, 65044, -64985),
    (65045, 65045, -65012), (65046, 65046, -64983), (65075, 65075, -64980),
    (65076, 65076, -64981), (65077, 65078, -65037), (65079, 65079, -64956),
    (65080, 65080, -64955), (65095, 65095, -65004), (65096, 65096, -65003),
    (65101, 65101, -65006), (65102, 65102, -65007), (65103, 65103, -65008),
    (65104, 65104, -65060), (65108, 65108, -65049), (65109, 65109, -65051),
    (65110, 65110, -65047), (65111, 65111, -65078), (65113, 65114, -65073),
    (65115, 65115, -64992), (65116, 65116, -64991), (65119, 65119, -65084),
    (65120, 65120, -65082), (65121, 65122, -65079), (65123, 65123, -65078),
    (65124, 65124, -65064), (65125, 65125, -65063), (65126, 65126, -65065),
    (65128, 65128, -65036), (65129, 65130, -65093), (65131, 65131, -65067),
    (65281, 65312, -65248), (65313, 65338, -65216), (65339, 65374, -65248),
    (65377, 65377, -65331), (65438, 65439, -52997), (67493, 67493, -67380),
    (117974, 117999, -117877), (118000, 118009, -117952), (119808, 119833, -119711),
    (119834, 119859, -119737), (119860, 119885, -119763), (119886, 119892, -119789),
    (119894, 119911, -119789), (119912, 119937, -119815), (119938, 119963, -119841),
    (119964, 119964, -119867), (119966, 119967, -119867), (119970, 119970, -119867),
    (119973, 119974, -119867), (119977, 119980, -119867), (119982, 119989, -119867),
    (119990, 119993, -119893), (119995, 119995, -119893), (119997, 120003, -119893),
    (120005, 120015, -119893), (120016, 120041, -119919), (120042, 120067, -119945),
    (120068, 120069, -119971), (120071, 120074, -119971), (120077, 120084, -119971),
    (120086, 120092, -119971), (120094, 120119, -119997), (120120, 120121, -120023),
    (120123, 120126, -120023), (120128, 120132, -120023), (120134, 120134, -120023),
    (120138, 120144, -120023), (120146, 120171, -120049), (120172, 120197, -120075),
    (120198, 120223, -120101), (120224, 120249, -120127), (120250, 120275, -120153),
    (120276, 120301, -120179), (120302, 120327, -120205), (120328, 120353, -120231),
    (120354, 120379, -120257), (120380, 120405, -120283), (120406, 120431, -120309),
    (120432, 120457, -120335), (120458, 120483, -120361), (120782, 120791, -120734),
    (120792, 120801, -120744), (120802, 120811, -120754), (120812, 120821, -120764),
    (120822, 120831, -120774), (127275, 127275, -127176), (127276, 127276, -127162),
    (127280, 127305, -127183), (130032, 130041, -129984)]

/-- Code points that stand for several characters. -/
def spelledPoints : Array (Nat × List Nat) :=
  #[(168, [32, 776]), (175, [32, 772]), (180, [32, 769]), (184, [32, 807]),
    (188, [49, 8260, 52]), (189, [49, 8260, 50]), (190, [51, 8260, 52]), (304, [105, 775]),
    (306, [105, 106]), (307, [105, 106]), (319, [108, 183]), (320, [108, 183]),
    (329, [700, 110]), (452, [100, 382]), (453, [100, 382]), (454, [100, 382]),
    (455, [108, 106]), (456, [108, 106]), (457, [108, 106]), (458, [110, 106]),
    (459, [110, 106]), (460, [110, 106]), (497, [100, 122]), (498, [100, 122]),
    (499, [100, 122]), (728, [32, 774]), (729, [32, 775]), (730, [32, 778]), (731, [32, 808]),
    (732, [32, 771]), (733, [32, 779]), (890, [32, 953]), (900, [32, 769]),
    (901, [32, 776, 769]), (3635, [3661, 3634]), (3763, [3789, 3762]), (7834, [97, 702]),
    (8125, [32, 787]), (8127, [32, 787]), (8128, [32, 834]), (8129, [32, 776, 834]),
    (8141, [32, 787, 768]), (8142, [32, 787, 769]), (8143, [32, 787, 834]),
    (8157, [32, 788, 768]), (8158, [32, 788, 769]), (8159, [32, 788, 834]),
    (8173, [32, 776, 768]), (8174, [32, 776, 769]), (8189, [32, 769]), (8190, [32, 788]),
    (8215, [32, 819]), (8252, [33, 33]), (8254, [32, 773]), (8263, [63, 63]), (8264, [63, 33]),
    (8265, [33, 63]), (8360, [114, 115]), (8448, [97, 47, 99]), (8449, [97, 47, 115]),
    (8451, [176, 99]), (8453, [99, 47, 111]), (8454, [99, 47, 117]), (8457, [176, 102]),
    (8470, [110, 111]), (8480, [115, 109]), (8481, [116, 101, 108]), (8482, [116, 109]),
    (8507, [102, 97, 120]), (8528, [49, 8260, 55]), (8529, [49, 8260, 57]),
    (8530, [49, 8260, 49, 48]), (8531, [49, 8260, 51]), (8532, [50, 8260, 51]),
    (8533, [49, 8260, 53]), (8534, [50, 8260, 53]), (8535, [51, 8260, 53]),
    (8536, [52, 8260, 53]), (8537, [49, 8260, 54]), (8538, [53, 8260, 54]),
    (8539, [49, 8260, 56]), (8540, [51, 8260, 56]), (8541, [53, 8260, 56]),
    (8542, [55, 8260, 56]), (8543, [49, 8260]), (8545, [105, 105]), (8546, [105, 105, 105]),
    (8547, [105, 118]), (8549, [118, 105]), (8550, [118, 105, 105]),
    (8551, [118, 105, 105, 105]), (8552, [105, 120]), (8554, [120, 105]),
    (8555, [120, 105, 105]), (8561, [105, 105]), (8562, [105, 105, 105]), (8563, [105, 118]),
    (8565, [118, 105]), (8566, [118, 105, 105]), (8567, [118, 105, 105, 105]),
    (8568, [105, 120]), (8570, [120, 105]), (8571, [120, 105, 105]), (8585, [48, 8260, 51]),
    (9321, [49, 48]), (9322, [49, 49]), (9323, [49, 50]), (9324, [49, 51]), (9325, [49, 52]),
    (9326, [49, 53]), (9327, [49, 54]), (9328, [49, 55]), (9329, [49, 56]), (9330, [49, 57]),
    (9331, [50, 48]), (9332, [40, 49, 41]), (9333, [40, 50, 41]), (9334, [40, 51, 41]),
    (9335, [40, 52, 41]), (9336, [40, 53, 41]), (9337, [40, 54, 41]), (9338, [40, 55, 41]),
    (9339, [40, 56, 41]), (9340, [40, 57, 41]), (9341, [40, 49, 48, 41]),
    (9342, [40, 49, 49, 41]), (9343, [40, 49, 50, 41]), (9344, [40, 49, 51, 41]),
    (9345, [40, 49, 52, 41]), (9346, [40, 49, 53, 41]), (9347, [40, 49, 54, 41]),
    (9348, [40, 49, 55, 41]), (9349, [40, 49, 56, 41]), (9350, [40, 49, 57, 41]),
    (9351, [40, 50, 48, 41]), (9372, [40, 97, 41]), (9373, [40, 98, 41]), (9374, [40, 99, 41]),
    (9375, [40, 100, 41]), (9376, [40, 101, 41]), (9377, [40, 102, 41]), (9378, [40, 103, 41]),
    (9379, [40, 104, 41]), (9380, [40, 105, 41]), (9381, [40, 106, 41]), (9382, [40, 107, 41]),
    (9383, [40, 108, 41]), (9384, [40, 109, 41]), (9385, [40, 110, 41]), (9386, [40, 111, 41]),
    (9387, [40, 112, 41]), (9388, [40, 113, 41]), (9389, [40, 114, 41]), (9390, [40, 115, 41]),
    (9391, [40, 116, 41]), (9392, [40, 117, 41]), (9393, [40, 118, 41]), (9394, [40, 119, 41]),
    (9395, [40, 120, 41]), (9396, [40, 121, 41]), (9397, [40, 122, 41]), (10868, [58, 58, 61]),
    (10869, [61, 61]), (10870, [61, 61, 61]), (12443, [32, 12441]), (12444, [32, 12442]),
    (12800, [40, 4352, 41]), (12801, [40, 4354, 41]), (12802, [40, 4355, 41]),
    (12803, [40, 4357, 41]), (12804, [40, 4358, 41]), (12805, [40, 4359, 41]),
    (12806, [40, 4361, 41]), (12807, [40, 4363, 41]), (12808, [40, 4364, 41]),
    (12809, [40, 4366, 41]), (12810, [40, 4367, 41]), (12811, [40, 4368, 41]),
    (12812, [40, 4369, 41]), (12813, [40, 4370, 41]), (12814, [40, 44032, 41]),
    (12815, [40, 45208, 41]), (12816, [40, 45796, 41]), (12817, [40, 46972, 41]),
    (12818, [40, 47560, 41]), (12819, [40, 48148, 41]), (12820, [40, 49324, 41]),
    (12821, [40, 50500, 41]), (12822, [40, 51088, 41]), (12823, [40, 52264, 41]),
    (12824, [40, 52852, 41]), (12825, [40, 53440, 41]), (12826, [40, 54028, 41]),
    (12827, [40, 54616, 41]), (12828, [40, 51452, 41]), (12829, [40, 50724, 51204, 41]),
    (12830, [40, 50724, 54980, 41]), (12832, [40, 19968, 41]), (12833, [40, 20108, 41]),
    (12834, [40, 19977, 41]), (12835, [40, 22235, 41]), (12836, [40, 20116, 41]),
    (12837, [40, 20845, 41]), (12838, [40, 19971, 41]), (12839, [40, 20843, 41]),
    (12840, [40, 20061, 41]), (12841, [40, 21313, 41]), (12842, [40, 26376, 41]),
    (12843, [40, 28779, 41]), (12844, [40, 27700, 41]), (12845, [40, 26408, 41]),
    (12846, [40, 37329, 41]), (12847, [40, 22303, 41]), (12848, [40, 26085, 41]),
    (12849, [40, 26666, 41]), (12850, [40, 26377, 41]), (12851, [40, 31038, 41]),
    (12852, [40, 21517, 41]), (12853, [40, 29305, 41]), (12854, [40, 36001, 41]),
    (12855, [40, 31069, 41]), (12856, [40, 21172, 41]), (12857, [40, 20195, 41]),
    (12858, [40, 21628, 41]), (12859, [40, 23398, 41]), (12860, [40, 30435, 41]),
    (12861, [40, 20225, 41]), (12862, [40, 36039, 41]), (12863, [40, 21332, 41]),
    (12864, [40, 31085, 41]), (12865, [40, 20241, 41]), (12866, [40, 33258, 41]),
    (12867, [40, 33267, 41]), (12880, [112, 116, 101]), (12881, [50, 49]), (12882, [50, 50]),
    (12883, [50, 51]), (12884, [50, 52]), (12885, [50, 53]), (12886, [50, 54]),
    (12887, [50, 55]), (12888, [50, 56]), (12889, [50, 57]), (12890, [51, 48]),
    (12891, [51, 49]), (12892, [51, 50]), (12893, [51, 51]), (12894, [51, 52]),
    (12895, [51, 53]), (12977, [51, 54]), (12978, [51, 55]), (12979, [51, 56]),
    (12980, [51, 57]), (12981, [52, 48]), (12982, [52, 49]), (12983, [52, 50]),
    (12984, [52, 51]), (12985, [52, 52]), (12986, [52, 53]), (12987, [52, 54]),
    (12988, [52, 55]), (12989, [52, 56]), (12990, [52, 57]), (12991, [53, 48]),
    (12992, [49, 26376]), (12993, [50, 26376]), (12994, [51, 26376]), (12995, [52, 26376]),
    (12996, [53, 26376]), (12997, [54, 26376]), (12998, [55, 26376]), (12999, [56, 26376]),
    (13000, [57, 26376]), (13001, [49, 48, 26376]), (13002, [49, 49, 26376]),
    (13003, [49, 50, 26376]), (13004, [104, 103]), (13005, [101, 114, 103]),
    (13006, [101, 118]), (13007, [108, 116, 100]), (13144, [48, 28857]), (13145, [49, 28857]),
    (13146, [50, 28857]), (13147, [51, 28857]), (13148, [52, 28857]), (13149, [53, 28857]),
    (13150, [54, 28857]), (13151, [55, 28857]), (13152, [56, 28857]), (13153, [57, 28857]),
    (13154, [49, 48, 28857]), (13155, [49, 49, 28857]), (13156, [49, 50, 28857]),
    (13157, [49, 51, 28857]), (13158, [49, 52, 28857]), (13159, [49, 53, 28857]),
    (13160, [49, 54, 28857]), (13161, [49, 55, 28857]), (13162, [49, 56, 28857]),
    (13163, [49, 57, 28857]), (13164, [50, 48, 28857]), (13165, [50, 49, 28857]),
    (13166, [50, 50, 28857]), (13167, [50, 51, 28857]), (13168, [50, 52, 28857]),
    (13169, [104, 112, 97]), (13170, [100, 97]), (13171, [97, 117]), (13172, [98, 97, 114]),
    (13173, [111, 118]), (13174, [112, 99]), (13175, [100, 109]), (13176, [100, 109, 50]),
    (13177, [100, 109, 51]), (13178, [105, 117]), (13184, [112, 97]), (13185, [110, 97]),
    (13186, [956, 97]), (13187, [109, 97]), (13188, [107, 97]), (13189, [107, 98]),
    (13190, [109, 98]), (13191, [103, 98]), (13192, [99, 97, 108]),
    (13193, [107, 99, 97, 108]), (13194, [112, 102]), (13195, [110, 102]), (13196, [956, 102]),
    (13197, [956, 103]), (13198, [109, 103]), (13199, [107, 103]), (13200, [104, 122]),
    (13201, [107, 104, 122]), (13202, [109, 104, 122]), (13203, [103, 104, 122]),
    (13204, [116, 104, 122]), (13205, [956, 108]), (13206, [109, 108]), (13207, [100, 108]),
    (13208, [107, 108]), (13209, [102, 109]), (13210, [110, 109]), (13211, [956, 109]),
    (13212, [109, 109]), (13213, [99, 109]), (13214, [107, 109]), (13215, [109, 109, 50]),
    (13216, [99, 109, 50]), (13217, [109, 50]), (13218, [107, 109, 50]),
    (13219, [109, 109, 51]), (13220, [99, 109, 51]), (13221, [109, 51]),
    (13222, [107, 109, 51]), (13223, [109, 8725, 115]), (13224, [109, 8725, 115, 50]),
    (13225, [112, 97]), (13226, [107, 112, 97]), (13227, [109, 112, 97]),
    (13228, [103, 112, 97]), (13229, [114, 97, 100]), (13230, [114, 97, 100, 8725, 115]),
    (13231, [114, 97, 100, 8725, 115, 50]), (13232, [112, 115]), (13233, [110, 115]),
    (13234, [956, 115]), (13235, [109, 115]), (13236, [112, 118]), (13237, [110, 118]),
    (13238, [956, 118]), (13239, [109, 118]), (13240, [107, 118]), (13241, [109, 118]),
    (13242, [112, 119]), (13243, [110, 119]), (13244, [956, 119]), (13245, [109, 119]),
    (13246, [107, 119]), (13247, [109, 119]), (13248, [107, 969]), (13249, [109, 969]),
    (13251, [98, 113]), (13252, [99, 99]), (13253, [99, 100]), (13254, [99, 8725, 107, 103]),
    (13256, [100, 98]), (13257, [103, 121]), (13258, [104, 97]), (13259, [104, 112]),
    (13260, [105, 110]), (13261, [107, 107]), (13262, [107, 109]), (13263, [107, 116]),
    (13264, [108, 109]), (13265, [108, 110]), (13266, [108, 111, 103]), (13267, [108, 120]),
    (13268, [109, 98]), (13269, [109, 105, 108]), (13270, [109, 111, 108]),
    (13271, [112, 104]), (13273, [112, 112, 109]), (13274, [112, 114]), (13275, [115, 114]),
    (13276, [115, 118]), (13277, [119, 98]), (13278, [118, 8725, 109]),
    (13279, [97, 8725, 109]), (13280, [49, 26085]), (13281, [50, 26085]), (13282, [51, 26085]),
    (13283, [52, 26085]), (13284, [53, 26085]), (13285, [54, 26085]), (13286, [55, 26085]),
    (13287, [56, 26085]), (13288, [57, 26085]), (13289, [49, 48, 26085]),
    (13290, [49, 49, 26085]), (13291, [49, 50, 26085]), (13292, [49, 51, 26085]),
    (13293, [49, 52, 26085]), (13294, [49, 53, 26085]), (13295, [49, 54, 26085]),
    (13296, [49, 55, 26085]), (13297, [49, 56, 26085]), (13298, [49, 57, 26085]),
    (13299, [50, 48, 26085]), (13300, [50, 49, 26085]), (13301, [50, 50, 26085]),
    (13302, [50, 51, 26085]), (13303, [50, 52, 26085]), (13304, [50, 53, 26085]),
    (13305, [50, 54, 26085]), (13306, [50, 55, 26085]), (13307, [50, 56, 26085]),
    (13308, [50, 57, 26085]), (13309, [51, 48, 26085]), (13310, [51, 49, 26085]),
    (13311, [103, 97, 108]), (64256, [102, 102]), (64257, [102, 105]), (64258, [102, 108]),
    (64259, [102, 102, 105]), (64260, [102, 102, 108]), (64261, [115, 116]),
    (64262, [115, 116]), (64606, [32, 1612, 1617]), (64607, [32, 1613, 1617]),
    (64608, [32, 1614, 1617]), (64609, [32, 1615, 1617]), (64610, [32, 1616, 1617]),
    (64611, [32, 1617, 1648]),
    (65018, [1589, 1604, 1609, 32, 1575, 1604, 1604, 1607, 32, 1593, 1604, 1610, 1607, 32, 1608, 1587, 1604, 1605]),
    (65019, [1580, 1604, 32, 1580, 1604, 1575, 1604, 1607]), (65097, [32, 773]),
    (65098, [32, 773]), (65099, [32, 773]), (65100, [32, 773]), (65136, [32, 1611]),
    (65138, [32, 1612]), (65140, [32, 1613]), (65142, [32, 1614]), (65144, [32, 1615]),
    (65146, [32, 1616]), (65148, [32, 1617]), (65150, [32, 1618]), (65507, [32, 772]),
    (127233, [48, 44]), (127234, [49, 44]), (127235, [50, 44]), (127236, [51, 44]),
    (127237, [52, 44]), (127238, [53, 44]), (127239, [54, 44]), (127240, [55, 44]),
    (127241, [56, 44]), (127242, [57, 44]), (127248, [40, 97, 41]), (127249, [40, 98, 41]),
    (127250, [40, 99, 41]), (127251, [40, 100, 41]), (127252, [40, 101, 41]),
    (127253, [40, 102, 41]), (127254, [40, 103, 41]), (127255, [40, 104, 41]),
    (127256, [40, 105, 41]), (127257, [40, 106, 41]), (127258, [40, 107, 41]),
    (127259, [40, 108, 41]), (127260, [40, 109, 41]), (127261, [40, 110, 41]),
    (127262, [40, 111, 41]), (127263, [40, 112, 41]), (127264, [40, 113, 41]),
    (127265, [40, 114, 41]), (127266, [40, 115, 41]), (127267, [40, 116, 41]),
    (127268, [40, 117, 41]), (127269, [40, 118, 41]), (127270, [40, 119, 41]),
    (127271, [40, 120, 41]), (127272, [40, 121, 41]), (127273, [40, 122, 41]),
    (127274, [12308, 115, 12309]), (127277, [99, 100]), (127278, [119, 122]),
    (127306, [104, 118]), (127307, [109, 118]), (127308, [115, 100]), (127309, [115, 115]),
    (127310, [112, 112, 118]), (127311, [119, 99]), (127338, [109, 99]), (127339, [109, 100]),
    (127340, [109, 114]), (127376, [100, 106])]

/-- Code points that stand for characters beyond ASCII which are written in the same direction and are
marks or no marks as they are. -/
def likenedPoints : CodeRanges :=
  #[(181, 181), (192, 214), (216, 222), (256, 256), (258, 258), (260, 260), (262, 262),
    (264, 264), (266, 266), (268, 268), (270, 270), (272, 272), (274, 274), (276, 276),
    (278, 278), (280, 280), (282, 282), (284, 284), (286, 286), (288, 288), (290, 290),
    (292, 292), (294, 294), (296, 296), (298, 298), (300, 300), (302, 302), (308, 308),
    (310, 310), (313, 313), (315, 315), (317, 317), (321, 321), (323, 323), (325, 325),
    (327, 327), (330, 330), (332, 332), (334, 334), (336, 336), (338, 338), (340, 340),
    (342, 342), (344, 344), (346, 346), (348, 348), (350, 350), (352, 352), (354, 354),
    (356, 356), (358, 358), (360, 360), (362, 362), (364, 364), (366, 366), (368, 368),
    (370, 370), (372, 372), (374, 374), (376, 377), (379, 379), (381, 381), (385, 386),
    (388, 388), (390, 391), (393, 395), (398, 401), (403, 404), (406, 408), (412, 413),
    (415, 416), (418, 418), (420, 420), (422, 423), (425, 425), (428, 428), (430, 431),
    (433, 435), (437, 437), (439, 440), (444, 444), (461, 461), (463, 463), (465, 465),
    (467, 467), (469, 469), (471, 471), (473, 473), (475, 475), (478, 478), (480, 480),
    (482, 482), (484, 484), (486, 486), (488, 488), (490, 490), (492, 492), (494, 494),
    (500, 500), (502, 504), (506, 506), (508, 508), (510, 510), (512, 512), (514, 514),
    (516, 516), (518, 518), (520, 520), (522, 522), (524, 524), (526, 526), (528, 528),
    (530, 530), (532, 532), (534, 534), (536, 536), (538, 538), (540, 540), (542, 542),
    (544, 544), (546, 546), (548, 548), (550, 550), (552, 552), (554, 554), (556, 556),
    (558, 558), (560, 560), (562, 562), (570, 571), (573, 574), (577, 577), (579, 582),
    (584, 584), (586, 586), (588, 588), (590, 590), (689, 689), (692, 694), (736, 736),
    (740, 740), (832, 833), (835, 836), (880, 880), (882, 882), (884, 884), (886, 886),
    (895, 895), (902, 906), (908, 908), (910, 911), (913, 929), (931, 939), (975, 982),
    (984, 984), (986, 986), (988, 988), (990, 990), (992, 992), (994, 994), (996, 996),
    (998, 998), (1000, 1000), (1002, 1002), (1004, 1004), (1006, 1006), (1008, 1010),
    (1012, 1013), (1015, 1015), (1017, 1018), (1021, 1071), (1120, 1120), (1122, 1122),
    (1124, 1124), (1126, 1126), (1128, 1128), (1130, 1130), (1132, 1132), (1134, 1134),
    (1136, 1136), (1138, 1138), (1140, 1140), (1142, 1142), (1144, 1144), (1146, 1146),
    (1148, 1148), (1150, 1150), (1152, 1152), (1162, 1162), (1164, 1164), (1166, 1166),
    (1168, 1168), (1170, 1170), (1172, 1172), (1174, 1174), (1176, 1176), (1178, 1178),
    (1180, 1180), (1182, 1182), (1184, 1184), (1186, 1186), (1188, 1188), (1190, 1190),
    (1192, 1192), (1194, 1194), (1196, 1196), (1198, 1198), (1200, 1200), (1202, 1202),
    (1204, 1204), (1206, 1206), (1208, 1208), (1210, 1210), (1212, 1212), (1214, 1214),
    (1216, 1217), (1219, 1219), (1221, 1221), (1223, 1223), (1225, 1225), (1227, 1227),
    (1229, 1229), (1232, 1232), (1234, 1234), (1236, 1236), (1238, 1238), (1240, 1240),
    (1242, 1242), (1244, 1244), (1246, 1246), (1248, 1248), (1250, 1250), (1252, 1252),
    (1254, 1254), (1256, 1256), (1258, 1258), (1260, 1260), (1262, 1262), (1264, 1264),
    (1266, 1266), (1268, 1268), (1270, 1270), (1272, 1272), (1274, 1274), (1276, 1276),
    (1278, 1278), (1280, 1280), (1282, 1282), (1284, 1284), (1286, 1286), (1288, 1288),
    (1290, 1290), (1292, 1292), (1294, 1294), (1296, 1296), (1298, 1298), (1300, 1300),
    (1302, 1302), (1304, 1304), (1306, 1306), (1308, 1308), (1310, 1310), (1312, 1312),
    (1314, 1314), (1316, 1316), (1318, 1318), (1320, 1320), (1322, 1322), (1324, 1324),
    (1326, 1326), (1329, 1366), (1415, 1415), (1653, 1656), (2392, 2399), (2524, 2525),
    (2527, 2527), (2611, 2611), (2614, 2614), (2649, 2651), (2654, 2654), (2908, 2909),
    (3804, 3805), (3852, 3852), (3907, 3907), (3917, 3917), (3922, 3922), (3927, 3927),
    (3932, 3932), (3945, 3945), (3955, 3955), (3957, 3961), (3969, 3969), (3987, 3987),
    (3997, 3997), (4002, 4002), (4007, 4007), (4012, 4012), (4025, 4025), (4256, 4293),
    (4295, 4295), (4301, 4301), (4348, 4348), (5112, 5117), (7296, 7305), (7312, 7354),
    (7357, 7359), (7469, 7469), (7474, 7474), (7485, 7485), (7492, 7494), (7498, 7500),
    (7505, 7505), (7507, 7509), (7513, 7514), (7516, 7521), (7526, 7530), (7544, 7544),
    (7579, 7579), (7581, 7583), (7585, 7610), (7612, 7615), (7680, 7680), (7682, 7682),
    (7684, 7684), (7686, 7686), (7688, 7688), (7690, 7690), (7692, 7692), (7694, 7694),
    (7696, 7696), (7698, 7698), (7700, 7700), (7702, 7702), (7704, 7704), (7706, 7706),
    (7708, 7708), (7710, 7710), (7712, 7712), (7714, 7714), (7716, 7716), (7718, 7718),
    (7720, 7720), (7722, 7722), (7724, 7724), (7726, 7726), (7728, 7728), (7730, 7730),
    (7732, 7732), (7734, 7734), (7736, 7736), (7738, 7738), (7740, 7740), (7742, 7742),
    (7744, 7744), (7746, 7746), (7748, 7748), (7750, 7750), (7752, 7752), (7754, 7754),
    (7756, 7756), (7758, 7758), (7760, 7760), (7762, 7762), (7764, 7764), (7766, 7766),
    (7768, 7768), (7770, 7770), (7772, 7772), (7774, 7774), (7776, 7776), (7778, 7778),
    (7780, 7780), (7782, 7782), (7784, 7784), (7786, 7786), (7788, 7788), (7790, 7790),
    (7792, 7792), (7794, 7794), (7796, 7796), (7798, 7798), (7800, 7800), (7802, 7802),
    (7804, 7804), (7806, 7806), (7808, 7808), (7810, 7810), (7812, 7812), (7814, 7814),
    (7816, 7816), (7818, 7818), (7820, 7820), (7822, 7822), (7824, 7824), (7826, 7826),
    (7828, 7828), (7835, 7835), (7838, 7838), (7840, 7840), (7842, 7842), (7844, 7844),
    (7846, 7846), (7848, 7848), (7850, 7850), (7852, 7852), (7854, 7854), (7856, 7856),
    (7858, 7858), (7860, 7860), (7862, 7862), (7864, 7864), (7866, 7866), (7868, 7868),
    (7870, 7870), (7872, 7872), (7874, 7874), (7876, 7876), (7878, 7878), (7880, 7880),
    (7882, 7882), (7884, 7884), (7886, 7886), (7888, 7888), (7890, 7890), (7892, 7892),
    (7894, 7894), (7896, 7896), (7898, 7898), (7900, 7900), (7902, 7902), (7904, 7904),
    (7906, 7906), (7908, 7908), (7910, 7910), (7912, 7912), (7914, 7914), (7916, 7916),
    (7918, 7918), (7920, 7920), (7922, 7922), (7924, 7924), (7926, 7926), (7928, 7928),
    (7930, 7930), (7932, 7932), (7934, 7934), (7944, 7951), (7960, 7965), (7976, 7983),
    (7992, 7999), (8008, 8013), (8025, 8025), (8027, 8027), (8029, 8029), (8031, 8031),
    (8040, 8047), (8049, 8049), (8051, 8051), (8053, 8053), (8055, 8055), (8057, 8057),
    (8059, 8059), (8061, 8061), (8064, 8111), (8114, 8116), (8119, 8124), (8126, 8126),
    (8130, 8132), (8135, 8140), (8147, 8147), (8152, 8155), (8163, 8163), (8168, 8172),
    (8178, 8180), (8183, 8188), (8209, 8209), (8243, 8244), (8246, 8247), (8279, 8279),
    (8315, 8315), (8331, 8331), (8340, 8340), (8455, 8455), (8463, 8463), (8486, 8486),
    (8491, 8491), (8498, 8498), (8508, 8512), (8579, 8579), (8748, 8749), (8751, 8752),
    (9001, 9002), (10764, 10764), (10972, 10972), (11264, 11311), (11360, 11360),
    (11362, 11364), (11367, 11367), (11369, 11369), (11371, 11371), (11373, 11376),
    (11378, 11378), (11381, 11381), (11390, 11392), (11394, 11394), (11396, 11396),
    (11398, 11398), (11400, 11400), (11402, 11402), (11404, 11404), (11406, 11406),
    (11408, 11408), (11410, 11410), (11412, 11412), (11414, 11414), (11416, 11416),
    (11418, 11418), (11420, 11420), (11422, 11422), (11424, 11424), (11426, 11426),
    (11428, 11428), (11430, 11430), (11432, 11432), (11434, 11434), (11436, 11436),
    (11438, 11438), (11440, 11440), (11442, 11442), (11444, 11444), (11446, 11446),
    (11448, 11448), (11450, 11450), (11452, 11452), (11454, 11454), (11456, 11456),
    (11458, 11458), (11460, 11460), (11462, 11462), (11464, 11464), (11466, 11466),
    (11468, 11468), (11470, 11470), (11472, 11472), (11474, 11474), (11476, 11476),
    (11478, 11478), (11480, 11480), (11482, 11482), (11484, 11484), (11486, 11486),
    (11488, 11488), (11490, 11490), (11499, 11499), (11501, 11501), (11506, 11506),
    (11631, 11631), (11935, 11935), (12019, 12019), (12032, 12245), (12342, 12342),
    (12344, 12346), (12447, 12447), (12543, 12543), (12593, 12643), (12645, 12686),
    (12690, 12703), (12868, 12871), (12896, 12926), (12928, 12976), (13008, 13143),
    (13179, 13183), (42560, 42560), (42562, 42562), (42564, 42564), (42566, 42566),
    (42568, 42568), (42570, 42570), (42572, 42572), (42574, 42574), (42576, 42576),
    (42578, 42578), (42580, 42580), (42582, 42582), (42584, 42584), (42586, 42586),
    (42588, 42588), (42590, 42590), (42592, 42592), (42594, 42594), (42596, 42596),
    (42598, 42598), (42600, 42600), (42602, 42602), (42604, 42604), (42624, 42624),
    (42626, 42626), (42628, 42628), (42630, 42630), (42632, 42632), (42634, 42634),
    (42636, 42636), (42638, 42638), (42640, 42640), (42642, 42642), (42644, 42644),
    (42646, 42646), (42648, 42648), (42650, 42650), (42652, 42653), (42786, 42786),
    (42788, 42788), (42790, 42790), (42792, 42792), (42794, 42794), (42796, 42796),
    (42798, 42798), (42802, 42802), (42804, 42804), (42806, 42806), (42808, 42808),
    (42810, 42810), (42812, 42812), (42814, 42814), (42816, 42816), (42818, 42818),
    (42820, 42820), (42822, 42822), (42824, 42824), (42826, 42826), (42828, 42828),
    (42830, 42830), (42832, 42832), (42834, 42834), (42836, 42836), (42838, 42838),
    (42840, 42840), (42842, 42842), (42844, 42844), (42846, 42846), (42848, 42848),
    (42850, 42850), (42852, 42852), (42854, 42854), (42856, 42856), (42858, 42858),
    (42860, 42860), (42862, 42862), (42864, 42864), (42873, 42873), (42875, 42875),
    (42877, 42878), (42880, 42880), (42882, 42882), (42884, 42884), (42886, 42886),
    (42891, 42891), (42893, 42893), (42896, 42896), (42898, 42898), (42902, 42902),
    (42904, 42904), (42906, 42906), (42908, 42908), (42910, 42910), (42912, 42912),
    (42914, 42914), (42916, 42916), (42918, 42918), (42920, 42920), (42922, 42926),
    (42928, 42932), (42934, 42934), (42936, 42936), (42938, 42938), (42940, 42940),
    (42942, 42942), (42944, 42944), (42946, 42946), (42948, 42951), (42953, 42953),
    (42955, 42956), (42958, 42958), (42960, 42960), (42962, 42962), (42964, 42964),
    (42966, 42966), (42968, 42968), (42970, 42970), (42972, 42972), (42997, 42997),
    (43000, 43001), (43868, 43871), (43881, 43881), (43888, 43967), (63744, 64013),
    (64016, 64016), (64018, 64018), (64021, 64030), (64032, 64032), (64034, 64034),
    (64037, 64038), (64042, 64109), (64112, 64217), (64275, 64279), (64285, 64285),
    (64287, 64296), (64298, 64310), (64312, 64316), (64318, 64318), (64320, 64321),
    (64323, 64324), (64326, 64433), (64467, 64605), (64612, 64829), (64848, 64911),
    (64914, 64967), (65008, 65017), (65020, 65020), (65041, 65041), (65047, 65048),
    (65073, 65074), (65081, 65092), (65105, 65105), (65112, 65112), (65117, 65118),
    (65137, 65137), (65143, 65143), (65145, 65145), (65147, 65147), (65149, 65149),
    (65151, 65276), (65375, 65376), (65378, 65437), (65441, 65470), (65474, 65479),
    (65482, 65487), (65490, 65495), (65498, 65500), (65504, 65506), (65508, 65510),
    (65512, 65518), (66560, 66599), (66736, 66771), (66928, 66938), (66940, 66954),
    (66956, 66962), (66964, 66965), (67457, 67461), (67463, 67492), (67494, 67504),
    (67506, 67514), (68736, 68786), (68944, 68965), (71840, 71871), (93760, 93791),
    (93856, 93880), (119134, 119140), (119227, 119232), (120484, 120485), (120488, 120779),
    (122928, 122989), (125184, 125217), (126464, 126467), (126469, 126495), (126497, 126498),
    (126500, 126500), (126503, 126503), (126505, 126514), (126516, 126519), (126521, 126521),
    (126523, 126523), (126530, 126530), (126535, 126535), (126537, 126537), (126539, 126539),
    (126541, 126543), (126545, 126546), (126548, 126548), (126551, 126551), (126553, 126553),
    (126555, 126555), (126557, 126557), (126559, 126559), (126561, 126562), (126564, 126564),
    (126567, 126570), (126572, 126578), (126580, 126583), (126585, 126588), (126590, 126590),
    (126592, 126601), (126603, 126619), (126625, 126627), (126629, 126633), (126635, 126651),
    (127488, 127490), (127504, 127547), (127552, 127560), (127568, 127569), (194560, 195101)]

end WalletTools.Url
