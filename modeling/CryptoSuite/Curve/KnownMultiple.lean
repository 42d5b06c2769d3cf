import CryptoSuite.Bytes.Hex
import CryptoSuite.Error.Primitive

/-!
# Known multiples of the base point of secp521r1

A `KnownMultiple` is a scalar with the coordinates of that multiple of the base point, each as
hexadecimal text of the 66 octets of a field element.
-/

namespace CryptoSuite

/-- A multiple `k·G` of a base point `G` with the texts of its coordinates. -/
structure KnownMultiple where
  /-- The scalar. -/
  k : Nat
  /-- First coordinate of the multiple. -/
  x : String
  /-- Second coordinate of the multiple. -/
  y : String

namespace KnownMultiple

/-- The octets of the text of a coordinate. -/
def decodeHex (text : String) : Except PrimitiveError Bytes :=
  (Bytes.ofHex text).mapError fun fault => .parameter "test vector" fault.message

/-- Multiples of the base point of secp521r1 by 1 to 15, 19 and 20. -/
def secp521r1 : List KnownMultiple := [
  ⟨1,
    "00c6858e06b70404e9cd9e3ecb662395b4429c648139053fb521f828af606b4d3dbaa14b5e77efe75928fe1d" ++
    "c127a2ffa8de3348b3c1856a429bf97e7e31c2e5bd66",
    "011839296a789a3bc0045c8a5fb42c7d1bd998f54449579b446817afbd17273e662c97ee72995ef42640c550" ++
    "b9013fad0761353c7086a272c24088be94769fd16650"⟩,
  ⟨2,
    "00433c219024277e7e682fcb288148c282747403279b1ccc06352c6e5505d769be97b3b204da6ef55507aa10" ++
    "4a3a35c5af41cf2fa364d60fd967f43e3933ba6d783d",
    "00f4bb8cc7f86db26700a7f3eceeeed3f0b5c6b5107c4da97740ab21a29906c42dbbb3e377de9f251f6b9393" ++
    "7fa99a3248f4eafcbe95edc0f4f71be356d661f41b02"⟩,
  ⟨3,
    "01a73d352443de29195dd91d6a64b5959479b52a6e5b123d9ab9e5ad7a112d7a8dd1ad3f164a3a4832051da6" ++
    "bd16b59fe21baeb490862c32ea05a5919d2ede37ad7d",
    "013e9b03b97dfa62ddd9979f86c6cab814f2f1557fa82a9d0317d2f8ab1fa355ceec2e2dd4cf8dc575b02d5a" ++
    "ced1dec3c70cf105c9bc93a590425f588ca1ee86c0e5"⟩,
  ⟨4,
    "0035b5df64ae2ac204c354b483487c9070cdc61c891c5ff39afc06c5d55541d3ceac8659e24afe3d0750e8b8" ++
    "8e9f078af066a1d5025b08e5a5e2fbc87412871902f3",
    "0082096f84261279d2b673e0178eb0b4abb65521aef6e6e32e1b5ae63fe2f19907f279f283e54ba385405224" ++
    "f750a95b85eebb7faef04699d1d9e21f47fc346e4d0d"⟩,
  ⟨5,
    "00652bf3c52927a432c73dbc3391c04eb0bf7a596efdb53f0d24cf03dab8f177ace4383c0c6d5e3014237112" ++
    "feaf137e79a329d7e1e6d8931738d5ab5096ec8f3078",
    "015be6ef1bdd6601d6ec8a2b73114a8112911cd8fe8e872e0051edd817c9a0347087bb6897c9072cf3743115" ++
    "40211cf5ff79d1f007257354f7f8173cc3e8deb090cb"⟩,
  ⟨6,
    "01ee4569d6cdb59219532eff34f94480d195623d30977fd71cf3981506ade4ab01525fbcca16153f7394e072" ++
    "7a239531be8c2f66e95657f380ae23731bedf79206b9",
    "01de0255ad0cc64f586ae2dd270546e3b1112aabbb73da5a808e7240a926201a8a96cab72d0e56648c9df96c" ++
    "984de274f2203dc7b8b55ca0dade1eaccd7858d44f17"⟩,
  ⟨7,
    "0056d5d1d99d5b7f6346eeb65fda0b073a0c5f22e0e8f5483228f018d2c2f7114c5d8c308d0abfc698d8c9a6" ++
    "df30dce3bbc46f953f50fdc2619a01cead882816ecd4",
    "003d2d1b7d9baaa2a110d1d8317a39d68478b5c582d02824f0dd71dbd98a26cbde556bd0f293cdec9e2b9523" ++
    "a34591ce1a5f9e76712a5ddefc7b5c6b8bc90525251b"⟩,
  ⟨8,
    "000822c40fb6301f7262a8348396b010e25bd4e29d8a9b003e0a8b8a3b05f826298f5bfea5b8579f49f08b59" ++
    "8c1bc8d79e1ab56289b5a6f4040586f9ea54aa78ce68",
    "016331911d5542fc482048fdab6e78853b9a44f8ede9e2c0715b5083de610677a8f189e9c0aa5911b4bff0ba" ++
    "0df065c578699f3ba940094713538ad642f11f17801c"⟩,
  ⟨9,
    "01585389e359e1e21826a2f5bf157156d488ed34541b988746992c4ab145b8c6b6657429e1396134da35f3c5" ++
    "56df725a318f4f50babd85cd28661f45627967cbe207",
    "002a2e618c9a8aedf39f0b55557a27ae938e3088a654ee1cebb6c825ba263ddb446e0d69e5756057ac840ff5" ++
    "6ecf4abfd87d736c2ae928880f343aa0ea86b9ad2a4e"⟩,
  ⟨10,
    "0190eb8f22bda61f281dfcfe7bb6721ec4cd901d879ac09ac7c34a9246b11ada8910a2c7c178fcc263299daa" ++
    "4da9842093f37c2e411f1a8e819a87ff09a04f2f3320",
    "01eb5d96b8491614ba9dbaeab3b0ca2ba760c2eeb2144251b20ba97fd78a62ef62d2bf5349d44d9864bb536f" ++
    "6163dc57ebeff3689639739faa172954bc98135ec759"⟩,
  ⟨11,
    "008a75841259fdedff546f1a39573b4315cfed5dc7ed7c17849543ef2c54f2991652f3dbc5332663da1bd19b" ++
    "1aebe3191085015c024fa4c9a902ecc0e02dda0cdb9a",
    "0096fb303fcbba2129849d0ca877054fb2293add566210bd0493ed2e95d4e0b9b82b1bc8a90e8b42a4ab3892" ++
    "331914a95336dcac80e3f4819b5d58874f92ce48c808"⟩,
  ⟨12,
    "01c0d9dcec93f8221c5de4fae9749c7fde1e81874157958457b6107cf7a5967713a644e90b7c3fb81b31477f" ++
    "ee9a60e938013774c75c530928b17be69571bf842d8c",
    "014048b5946a4927c0fe3ce1d103a682ca4763fe65ab71494da45e404abf6a17c097d6d18843d86fcdb6cc10" ++
    "a6f951b9b630884ba72224f5ae6c79e7b1a3281b17f0"⟩,
  ⟨13,
    "007e3e98f984c396ad9cd7865d2b4924861a93f736cde1b4c2384eedd2beaf5b866132c45908e03c996a3550" ++
    "a5e79ab88ee94bec3b00ab38eff81887848d32fbcda7",
    "0108ee58eb6d781feda91a1926daa3ed5a08ced50a386d5421c69c7a67ae5c1e212ac1bd5d5838bc763f26df" ++
    "dd351cbfbbc36199eaaf9117e9f7291a01fb022a71c9"⟩,
  ⟨14,
    "01875bc7dc551b1b65a9e1b8ccfaaf84ded1958b401494116a2fd4fb0babe0b3199974fc06c8b897222d79df" ++
    "3e4b7bc744aa6767f6b812efbf5d2c9e682dd3432d74",
    "005ca4923575dacb5bd2d66290bbabb4bdfb8470122b8e51826a0847ce9b86d7ed62d07781b1b4f3584c11e8" ++
    "9bf1d133dc0d5b690f53a87c84be41669f852700d54a"⟩,
  ⟨15,
    "006b6ad89abcb92465f041558fc546d4300fb8fbcc30b40a0852d697b532df128e11b91cce27dbd00ffe7875" ++
    "bd1c8fc0331d9b8d96981e3f92bde9afe337bcb8db55",
    "01b468da271571391d6a7ce64d2333edbf63df0496a9bad20cba4b62106997485ed57e9062c899470a802148" ++
    "e2232c96c99246fd90cc446abdd956343480a1475465"⟩,
  ⟨19,
    "00998dcce486419c3487c0f948c2d5a1a07245b77e0755df547efff0acdb3790e7f1fa3b3096362669679232" ++
    "557d7a45970dfecf431e725bbde478ff0b2418d6a19b",
    "0137d5da0626a021ed5cc3942497535b245d67d28aee2b7bcf4acc50eee36545772773ad963ff2eb8cf9b0ec" ++
    "39991631c377f5a4d89ea9fbfe44a9091a695bfd0575"⟩,
  ⟨20,
    "018bdd7f1b889598a4653deeae39cc6f8cc2bd767c2ab0d93fb12e968fbed342b51709506339cb1049cb11dd" ++
    "48b9bdb3cd5cad792e43b74e16d8e2603bfb11b0344f",
    "00c5aadbe63f68ca5b6b6908296959bf0af89ee7f52b410b9444546c550952d311204da3bdddc6d4eae7edfa" ++
    "ec1030da8ef837ccb22eee9cfc94dd3287fed0990f94"⟩]

end KnownMultiple

end CryptoSuite
